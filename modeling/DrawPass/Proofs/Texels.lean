/-
DrawPass/Proofs/Texels.lean

Which texels a fill writes.

A texel is found by its column, its row and its layer.  As long as 32 bits can count the texels of
a texture, each has a place of its own (`Texture.index?_inj`), so writing one leaves the others
alone.  A fill is a loop of such writes.  It writes the texels of one layer that lie in its
rectangle, as far as that reaches into the texture, and no others (`Texture.fill_paints`).  The ends
of the rectangle are worked out in 32 bits and must not wrap.
-/
import DrawPass.Proofs.Command
import DrawPass.Proofs.Counts
import Mathlib.Tactic.Ring

namespace DrawPass

open Gl

/-! ### Coordinates -/

/-- The ends of a rectangle, which are worked out in 32 bits, do not wrap. -/
structure Gl.Rect.EndsFit (rect : Rect) : Prop where
  column : -2147483648 ≤ rect.x.toInt + rect.width.toInt ∧
    rect.x.toInt + rect.width.toInt ≤ 2147483647
  row : -2147483648 ≤ rect.y.toInt + rect.height.toInt ∧
    rect.y.toInt + rect.height.toInt ≤ 2147483647

/-- Whether a rectangle contains a place. -/
def Gl.Rect.Contains (rect : Rect) (x y : Int32) : Prop :=
  (rect.x.toInt ≤ x.toInt ∧ x.toInt < rect.x.toInt + rect.width.toInt) ∧
    rect.y.toInt ≤ y.toInt ∧ y.toInt < rect.y.toInt + rect.height.toInt

instance (rect : Rect) (x y : Int32) : Decidable (rect.Contains x y) :=
  inferInstanceAs (Decidable (_ ∧ _))

namespace Software.Texture

/-- Whether a texture has a texel at the coordinates. -/
def Holds (t : Texture) (x y : Int32) (layer : UInt32) : Prop :=
  (0 ≤ x.toInt ∧ x.toInt < t.width.toNat) ∧ (0 ≤ y.toInt ∧ y.toInt < t.height.toNat) ∧
    layer < t.layers

instance (t : Texture) (x y : Int32) (layer : UInt32) : Decidable (t.Holds x y layer) :=
  inferInstanceAs (Decidable (_ ∧ _))

/-- The texels of a texture can be counted with 32 bits. -/
def Countable (t : Texture) : Prop := t.width.toNat * t.height.toNat * t.layers.toNat < 2 ^ 32

instance (t : Texture) : Decidable t.Countable := inferInstanceAs (Decidable (_ < _))

/-- The storage of a texture has as many texels as it was asked for, counted with 32 bits. -/
def Full (t : Texture) : Prop := t.texels.size = (t.width * t.height * t.layers).toNat

/-- A texel as it is stored, if there is one at the coordinates. -/
def stored? (t : Texture) (x y : Int32) (layer : UInt32) : Option Color :=
  (t.index? x y layer).bind fun i => t.texels[i]?

variable {t t' t'' : Texture} {x y x' y' : Int32} {layer layer' : UInt32} {i : Nat}

/-- A coordinate that is not negative is the same number without a sign. -/
theorem toNat_toUInt32 (hx : 0 ≤ x.toInt) : x.toUInt32.toNat = x.toInt.toNat := by
  rw [Int32.toNat_toUInt32_of_le (Int32.le_iff_toInt_le.2 hx), Int32.toNat_toInt]

/-- The place of a texel, in the order in which they are stored. -/
def place (t : Texture) (x y : Int32) (layer : UInt32) : Nat :=
  (layer.toNat * t.height.toNat + y.toInt.toNat) * t.width.toNat + x.toInt.toNat

theorem place_lt (h : t.Holds x y layer) :
    t.place x y layer < t.width.toNat * t.height.toNat * t.layers.toNat := by
  obtain ⟨⟨hx, hwidth⟩, ⟨hy, hheight⟩, hlayer⟩ := h
  rw [UInt32.lt_iff_toNat_lt] at hlayer
  calc t.place x y layer
      < (layer.toNat * t.height.toNat + y.toInt.toNat) * t.width.toNat + t.width.toNat := by
        unfold place
        omega
    _ = (layer.toNat * t.height.toNat + y.toInt.toNat + 1) * t.width.toNat := by ring
    _ ≤ ((layer.toNat + 1) * t.height.toNat) * t.width.toNat := by
        refine Nat.mul_le_mul_right _ ?_
        rw [Nat.add_mul, Nat.one_mul]
        omega
    _ ≤ (t.layers.toNat * t.height.toNat) * t.width.toNat :=
        Nat.mul_le_mul_right _ (Nat.mul_le_mul_right _ hlayer)
    _ = t.width.toNat * t.height.toNat * t.layers.toNat := by ring

/-- Texels that are stored at the same place have the same coordinates. -/
theorem place_inj (h : t.Holds x y layer) (h' : t.Holds x' y' layer')
    (heq : t.place x y layer = t.place x' y' layer') : x = x' ∧ y = y' ∧ layer = layer' := by
  obtain ⟨⟨hx, hwidth⟩, ⟨hy, hheight⟩, -⟩ := h
  obtain ⟨⟨hx', hwidth'⟩, ⟨hy', hheight'⟩, -⟩ := h'
  -- A place is a quotient and a rest, and its quotient is another such place.
  have split {a b a' b' n : Nat} (hb : b < n) (hb' : b' < n) (heq : a * n + b = a' * n + b') :
      a = a' ∧ b = b' := by
    have hn : 0 < n := Nat.zero_lt_of_lt hb
    have hdiv (a b : Nat) (hb : b < n) : (a * n + b) / n = a := by
      rw [Nat.mul_comm, Nat.mul_add_div hn, Nat.div_eq_of_lt hb, Nat.add_zero]
    have hmod (a b : Nat) (hb : b < n) : (a * n + b) % n = b := by
      rw [Nat.mul_comm, Nat.mul_add_mod, Nat.mod_eq_of_lt hb]
    exact ⟨by rw [← hdiv a b hb, heq, hdiv a' b' hb'], by rw [← hmod a b hb, heq, hmod a' b' hb']⟩
  obtain ⟨hrow, hcolumn⟩ := split (by omega) (by omega) heq
  obtain ⟨hlayer, hline⟩ := split (by omega) (by omega) hrow
  exact ⟨Int32.toInt_inj.1 (by omega), Int32.toInt_inj.1 (by omega), UInt32.toNat_inj.1 hlayer⟩

/-- A texture finds the texels that it has. -/
theorem index?_eq (t : Texture) (x y : Int32) (layer : UInt32) :
    t.index? x y layer = if t.Holds x y layer then
      some ((layer * t.height + y.toUInt32) * t.width + x.toUInt32).toNat else none := by
  have hzero : (0 : Int32).toInt = 0 := rfl
  have hout : (x < 0 ∨ y < 0 ∨ t.width ≤ x.toUInt32 ∨ t.height ≤ y.toUInt32 ∨ t.layers ≤ layer) ↔
      ¬ t.Holds x y layer := by
    simp only [Holds, Int32.lt_iff_toInt_lt, UInt32.le_iff_toNat_le, UInt32.lt_iff_toNat_lt, hzero]
    by_cases hx : 0 ≤ x.toInt
    · by_cases hy : 0 ≤ y.toInt
      · rw [toNat_toUInt32 hx, toNat_toUInt32 hy]
        omega
      · omega
    · omega
  unfold index?
  by_cases h : t.Holds x y layer
  · rw [if_neg fun h' => hout.1 h' h, if_pos h]
  · rw [if_pos (hout.2 h), if_neg h]

/-- Each texel is at its place if 32 bits can count them. -/
theorem index?_eq_some_iff (ht : t.Countable) :
    t.index? x y layer = some i ↔ t.Holds x y layer ∧ t.place x y layer = i := by
  rw [index?_eq]
  by_cases h : t.Holds x y layer
  · have hlt : t.place x y layer < 2 ^ 32 := Nat.lt_trans (place_lt h) ht
    -- What is worked out on the way may wrap, but the outcome is below the number of texels.
    have hplace : ((layer * t.height + y.toUInt32) * t.width + x.toUInt32).toNat =
        t.place x y layer := by
      rw [← Nat.mod_eq_of_lt hlt, place, ← toNat_toUInt32 h.1.1, ← toNat_toUInt32 h.2.1.1]
      simp [UInt32.toNat_add, UInt32.toNat_mul, Nat.add_mod, Nat.mul_mod]
    rw [if_pos h, hplace]
    simp [h]
  · simp [h]

theorem index?_inj (ht : t.Countable) (h : t.index? x y layer = some i)
    (h' : t.index? x' y' layer' = some i) : x = x' ∧ y = y' ∧ layer = layer' := by
  obtain ⟨hholds, heq⟩ := (index?_eq_some_iff ht).1 h
  obtain ⟨hholds', heq'⟩ := (index?_eq_some_iff ht).1 h'
  exact place_inj hholds hholds' (heq.trans heq'.symm)

/-- A texture whose storage is full stores the texels that it has. -/
theorem isSome_stored? (ht : t.Countable) (hfull : t.Full) :
    (t.stored? x y layer).isSome ↔ t.Holds x y layer := by
  have hsize : t.texels.size = t.width.toNat * t.height.toNat * t.layers.toNat := by
    rw [← Nat.mod_eq_of_lt ht, hfull]
    simp [UInt32.toNat_mul, Nat.mul_mod]
  constructor
  · intro h
    obtain ⟨color, hcolor⟩ := Option.isSome_iff_exists.1 h
    obtain ⟨i, hi, -⟩ := Option.bind_eq_some_iff.1 hcolor
    exact ((index?_eq_some_iff ht).1 hi).1
  · intro h
    have hlt := place_lt h
    rw [← hsize] at hlt
    unfold stored?
    rw [(index?_eq_some_iff ht).2 ⟨h, rfl⟩, Option.bind_some, Array.getElem?_eq_getElem hlt]
    rfl

theorem Recolored.stored?_eq (h : t.Recolored t') (x y : Int32) (layer : UInt32) :
    t'.stored? x y layer = (t.index? x y layer).bind fun i => t'.texels[i]? := by
  have hindex : t'.index? x y layer = t.index? x y layer := by
    rw [h.frame]
    rfl
  unfold stored?
  rw [hindex]

/-! ### Painting -/

/-- Exactly the texels of an area have been written. -/
structure Painted (area : Int32 → Int32 → UInt32 → Prop) (texel : Color) (t t' : Texture) : Prop
    extends t.Recolored t' where
  written : t.Countable → ∀ {x y layer}, area x y layer →
    t'.stored? x y layer = (t.stored? x y layer).map fun _ => texel
  kept : t.Countable → ∀ {x y layer}, ¬ area x y layer →
    t'.stored? x y layer = t.stored? x y layer

variable {area area' : Int32 → Int32 → UInt32 → Prop} {texel : Color}

theorem Painted.none (t : Texture) (texel : Color) : t.Painted (fun _ _ _ => False) texel t where
  toRecolored := refl t
  written _ _ _ _ h := h.elim
  kept _ _ _ _ _ := rfl

theorem Recolored.countable (h : t.Recolored t') (ht : t.Countable) : t'.Countable := by
  rw [h.frame]
  exact ht

/-- Two areas that are painted one after the other. -/
theorem Painted.or (h : t.Painted area texel t') (h' : t'.Painted area' texel t'') :
    t.Painted (fun x y layer => area x y layer ∨ area' x y layer) texel t'' where
  toRecolored := IsTrans.trans t _ _ h.toRecolored h'.toRecolored
  written := by
    intro ht x y layer harea
    have ht' := h.countable ht
    by_cases hfirst : area x y layer <;> by_cases hsecond : area' x y layer
    · rw [h'.written ht' hsecond, h.written ht hfirst, Option.map_map]
      rfl
    · rw [h'.kept ht' hsecond, h.written ht hfirst]
    · rw [h'.written ht' hsecond, h.kept ht hfirst]
    · exact absurd harea (not_or.2 ⟨hfirst, hsecond⟩)
  kept := by
    intro ht x y layer harea
    rw [not_or] at harea
    rw [h'.kept (h.countable ht) harea.2, h.kept ht harea.1]

theorem stored?_of_not_holds (h : t.Recolored t') (hnot : ¬ t.Holds x y layer) :
    t'.stored? x y layer = none := by
  rw [h.stored?_eq, index?_eq, if_neg hnot]
  rfl

/-- Only the part of an area that lies in the texture counts. -/
theorem Painted.congr (h : t.Painted area texel t')
    (harea : ∀ x y layer, t.Holds x y layer → (area x y layer ↔ area' x y layer)) :
    t.Painted area' texel t' where
  toRecolored := h.toRecolored
  written := by
    intro ht x y layer h'
    by_cases hholds : t.Holds x y layer
    · exact h.written ht ((harea x y layer hholds).2 h')
    · rw [stored?_of_not_holds h.toRecolored hholds, stored?_of_not_holds (refl t) hholds]
      rfl
  kept := by
    intro ht x y layer h'
    by_cases hholds : t.Holds x y layer
    · exact h.kept ht (mt (harea x y layer hholds).1 h')
    · rw [stored?_of_not_holds h.toRecolored hholds, stored?_of_not_holds (refl t) hholds]

theorem put_paints (t : Texture) (x y : Int32) (layer : UInt32) (texel : Color) :
    t.Painted (fun x' y' layer' => x = x' ∧ y = y' ∧ layer = layer') texel
      (t.put x y layer texel) where
  toRecolored := t.recolored_put x y layer texel
  written := by
    rintro ht _ _ _ ⟨rfl, rfl, rfl⟩
    rw [(t.recolored_put x y layer texel).stored?_eq]
    unfold stored? put
    cases hindex : t.index? x y layer with
    | none => rfl
    | some i =>
      simp only [Option.bind_some, Array.getElem?_setIfInBounds]
      by_cases hi : i < t.texels.size <;> simp [hi]
  kept := by
    intro ht x' y' layer' hother
    rw [(t.recolored_put x y layer texel).stored?_eq]
    unfold stored? put
    cases hindex' : t.index? x' y' layer' with
    | none => rfl
    | some j =>
      cases hindex : t.index? x y layer with
      | none => rfl
      | some i =>
        -- Another texel is at another place.
        have hne : i ≠ j := fun heq => hother (index?_inj ht hindex (heq ▸ hindex'))
        simp only [Option.bind_some]
        exact Array.getElem?_setIfInBounds_ne hne

/-- A loop paints what its steps paint. -/
theorem foldl_paints {α : Type} {areas : α → Int32 → Int32 → UInt32 → Prop}
    {step : Texture → α → Texture} (h : ∀ t a, Painted (areas a) texel t (step t a)) (l : List α)
    (t : Texture) : t.Painted (fun x y layer => ∃ a ∈ l, areas a x y layer) texel
      (l.foldl step t) := by
  induction l generalizing t with
  | nil => exact (Painted.none t texel).congr fun x y layer _ => by simp
  | cons a l ih =>
    refine ((h t a).or (ih (step t a))).congr fun x y layer _ => ?_
    simp

/-! ### Rectangles -/

theorem mem_span {start stop : Int32} :
    x ∈ span start stop ↔ start.toInt ≤ x.toInt ∧ x.toInt < stop.toInt := by
  have hlow := start.le_toInt
  have hhigh := stop.toInt_lt
  unfold span
  rw [List.mem_map]
  constructor
  · rintro ⟨n, hn, rfl⟩
    rw [List.mem_range] at hn
    rw [Int32.toInt_ofInt_of_le (by omega) (by omega)]
    omega
  · rintro ⟨hstart, hstop⟩
    refine ⟨(x.toInt - start.toInt).toNat, List.mem_range.2 (by omega), ?_⟩
    rw [Int.toNat_of_nonneg (by omega), add_sub_cancel, Int32.ofInt_toInt]

theorem toInt_max (a b : Int32) : (max a b).toInt = max a.toInt b.toInt := by
  show (if a ≤ b then b else a).toInt = _
  split <;> rename_i h <;> rw [Int32.le_iff_toInt_le] at h <;> omega

theorem toInt_min (a b : Int32) : (min a b).toInt = min a.toInt b.toInt := by
  show (if a ≤ b then a else b).toInt = _
  split <;> rename_i h <;> rw [Int32.le_iff_toInt_le] at h <;> omega

/-- The part of an extent inside a limit. -/
theorem mem_clip {start extent : Int32} {limit : UInt32}
    (hlow : -2147483648 ≤ start.toInt + extent.toInt)
    (hhigh : start.toInt + extent.toInt ≤ 2147483647) :
    x ∈ clip start extent limit ↔ (start.toInt ≤ x.toInt ∧ x.toInt < start.toInt + extent.toInt) ∧
      0 ≤ x.toInt ∧ x.toInt < limit.toNat := by
  have hend : (start + extent).toInt = start.toInt + extent.toInt := by
    rw [Int32.toInt_add]
    exact Int.bmod_eq_of_le (by omega) (by omega)
  have hlimit : (min limit Int32.maxValue.toUInt32).toInt32.toInt = min limit.toNat 2147483647 := by
    show (if limit ≤ Geometry.maxCount then limit else Geometry.maxCount).toInt32.toInt = _
    split <;> rename_i h
    · rw [Geometry.toInt_of_le_maxCount h]
      have hle : limit.toNat ≤ 2147483647 := UInt32.le_iff_toNat_le.1 h
      omega
    · rw [Geometry.toInt_of_le_maxCount (UInt32.le_refl _)]
      have hlt : 2147483647 < limit.toNat := UInt32.lt_iff_toNat_lt.1 (UInt32.not_le.1 h)
      have hmax : Geometry.maxCount.toNat = 2147483647 := rfl
      omega
  have hzero : (0 : Int32).toInt = 0 := rfl
  have hx := x.toInt_lt
  unfold clip
  rw [mem_span, toInt_max, toInt_min, hend, hlimit, hzero]
  omega

/-- A fill paints its rectangle, as far as that lies in the texture. -/
theorem fill_paints (t : Texture) {rect : Rect} (hrect : rect.EndsFit) (layer : UInt32)
    (value : Color) : t.Painted (fun x y layer' => rect.Contains x y ∧ layer' = layer)
      (t.quantized value) (t.fill rect layer value) := by
  -- A row is a loop of writes, and the rectangle is a loop of rows.
  have hrow (y : Int32) (t' : Texture) : t'.Painted
      (fun x' y' layer' => ∃ x ∈ clip rect.x rect.width t.width, x = x' ∧ y = y' ∧ layer = layer')
      (t.quantized value) ((clip rect.x rect.width t.width).foldl
        (fun t' x => t'.put x y layer (t.quantized value)) t') :=
    foldl_paints (fun t' x => t'.put_paints x y layer _) _ t'
  have hrows := foldl_paints (fun t' y => hrow y t') (clip rect.y rect.height t.height) t
  refine hrows.congr fun x y layer' hholds => ?_
  obtain ⟨hx, hy, -⟩ := hholds
  constructor
  · rintro ⟨y, hmemRow, x, hmemColumn, rfl, rfl, rfl⟩
    exact ⟨⟨((mem_clip hrect.column.1 hrect.column.2).1 hmemColumn).1,
      ((mem_clip hrect.row.1 hrect.row.2).1 hmemRow).1⟩, rfl⟩
  · rintro ⟨⟨hcolumn, hline⟩, rfl⟩
    exact ⟨y, (mem_clip hrect.row.1 hrect.row.2).2 ⟨hline, hy⟩, x,
      (mem_clip hrect.column.1 hrect.column.2).2 ⟨hcolumn, hx⟩, rfl, rfl, rfl⟩

/-! ### The greatest value -/

/-- One is a number that every storage keeps. -/
theorem decode_encode_one (format type : UInt32) :
    decodeComponent format type (encodeComponent format type .one) = .one := by
  unfold decodeComponent encodeComponent
  generalize isNormalized format type = norm
  cases ComponentType.ofConstant type <;> cases norm <;> decide +kernel

/-- The greatest depth is one in the channels that are stored. -/
theorem quantized_one (t : Texture) :
    t.quantized (Color.uniform .one) =
      Vector.ofFn fun c => if c.val < t.channels then .one else .zero := by
  have hone : ∀ c : Fin 4, (Color.uniform .one)[c] = .one := by decide
  unfold quantized
  simp only [hone, decode_encode_one]

end Software.Texture

end DrawPass
