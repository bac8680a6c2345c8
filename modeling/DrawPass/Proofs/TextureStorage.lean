/-
DrawPass/Proofs/TextureStorage.lean

The storage of textures along every sequence of operations.

A texture begins without storage, is specified any number of times, and is stored to, fetched from
and read in between (`Texture.Reachable`).  As long as what it is specified with can be counted by
signed words, its storage stays sound (`Texture.Reachable.sound`).  So the guarded form of whatever
comes next does not stop and does the same, each texel has a place of its own, and storing changes
the texel at one place at most (`storage_stays_sound`).
-/
import DrawPass.Proofs.Clears
import DrawPass.Proofs.Guarded

namespace DrawPass.Software

open Gl

namespace Texture

/-! ### Operations -/

/-- What is done to a texture, and what is asked of it. -/
inductive Operation where
  | specify (layout : Layout) (width height : UInt32) (layers : Option UInt32)
      (data : Option Bytes)
  | store (x y : Int32) (layer : UInt32) (value : Color)
  | fetch (x y : Int32) (layer : UInt32)
  | read (rect : Rect) (format type : UInt32)

/-- The answer to an operation. -/
inductive Reply where
  | nothing
  | texel (color : Color)
  | pixels (bytes : Bytes)

namespace Operation

/-- The texture after an operation, and the answer. -/
def run (t : Texture) : Operation → Texture × Reply
  | specify layout width height layers data =>
    (t.specify layout width height layers data, .nothing)
  | store x y layer value => (t.store x y layer value, .nothing)
  | fetch x y layer => (t, .texel (t.fetch x y layer))
  | read rect format type => (t, .pixels (t.read rect format type))

/-- The same, unless the guarded form stops. -/
def guarded (t : Texture) : Operation → Option (Texture × Reply)
  | specify layout width height layers data =>
    (Guarded.specify t layout width height layers data).map (·, .nothing)
  | store x y layer value => (Guarded.store t x y layer value).map (·, .nothing)
  | fetch x y layer => (Guarded.fetch t x y layer).map fun color => (t, .texel color)
  | read rect format type =>
    (Guarded.read t rect format type).map fun bytes => (t, .pixels bytes)

/-- Storage is specified that signed words can count, and rectangles are read that lie inside. -/
def Allowed (t : Texture) : Operation → Prop
  | specify _ width height layers _ => width.toNat < 2 ^ 31 ∧ height.toNat < 2 ^ 31 ∧
      width.toNat * height.toNat * max (layers.getD 1).toNat 1 < 2 ^ 31
  | read rect _ _ => rect.Within t.width t.height
  | store .. | fetch .. => True

end Operation

/-- The textures that operations lead to. -/
inductive Reachable : Texture → Prop where
  | empty : Reachable empty
  | run {t : Texture} (h : Reachable t) (op : Operation) (hop : op.Allowed t) :
      Reachable (op.run t).1

/-! ### Soundness -/

variable {t : Texture} {x y : Int32} {layer : UInt32}

theorem extent_specify (t : Texture) (layout : Layout) (width height : UInt32)
    (layers : Option UInt32) (data : Option Bytes) :
    (t.specify layout width height layers data).extent =
      (width, height, max (layers.getD 1) 1) := rfl

theorem toNat_depth (layers : Option UInt32) :
    (max (layers.getD 1) 1).toNat = max (layers.getD 1).toNat 1 := Geometry.toNat_max _ _

theorem sound_specify (t : Texture) (layout : Layout) {width height : UInt32}
    {layers : Option UInt32} (data : Option Bytes) (hwidth : width.toNat < 2 ^ 31)
    (hheight : height.toNat < 2 ^ 31)
    (h : width.toNat * height.toNat * max (layers.getD 1).toNat 1 < 2 ^ 31) :
    (t.specify layout width height layers data).Sound := by
  rw [← toNat_depth] at h
  refine ⟨hwidth, hheight, (Nat.le_max_right _ _).trans_eq (toNat_depth layers).symm, h, ?_⟩
  rw [t.full_specify layout width height layers data]
  change (width * height * max (layers.getD 1) 1).toNat =
    width.toNat * height.toNat * (max (layers.getD 1) 1).toNat
  rw [UInt32.toNat_mul, UInt32.toNat_mul, Nat.mod_mul_mod]
  exact Nat.mod_eq_of_lt (Nat.lt_trans h (by decide))

theorem Recolored.sound {t' : Texture} (h : t.Recolored t') (ht : t.Sound) : t'.Sound := by
  obtain ⟨hwidth, hheight, hlayers, hplaces, hsize⟩ := ht
  rw [← h.size] at hsize
  rw [h.frame]
  exact ⟨hwidth, hheight, hlayers, hplaces, hsize⟩

namespace Operation

variable {op : Operation}

/-- One operation keeps the storage sound. -/
theorem sound_run (h : t.Sound) (hop : op.Allowed t) : (op.run t).1.Sound := by
  cases op with
  | specify layout width height layers data =>
    obtain ⟨hwidth, hheight, hplaces⟩ := hop
    exact t.sound_specify layout data hwidth hheight hplaces
  | store x y layer value => exact (t.recolored_put x y layer _).sound h
  | fetch | read => exact h

/-- One operation goes through without going wrong. -/
theorem guarded_eq_run (h : t.Sound) (hop : op.Allowed t) : op.guarded t = some (op.run t) := by
  cases op with
  | specify layout width height layers data =>
    obtain ⟨-, -, hplaces⟩ := hop
    rw [← toNat_depth] at hplaces
    rw [guarded, t.guarded_specify layout data hplaces]
    rfl
  | store x y layer value =>
    rw [guarded, h.guarded_store]
    rfl
  | fetch x y layer =>
    rw [guarded, h.guarded_fetch]
    rfl
  | read rect format type =>
    rw [guarded, h.guarded_read hop]
    rfl

end Operation

theorem Reachable.sound (h : Reachable t) : t.Sound := by
  induction h with
  | empty => exact sound_empty
  | run h op hop ih => exact Operation.sound_run ih hop

/-! ### Places -/

theorem Sound.index?_eq_ite (h : t.Sound) (x y : Int32) (layer : UInt32) :
    t.index? x y layer = if t.Holds x y layer then some (t.place x y layer) else none := by
  split
  · rename_i hholds
    exact (index?_eq_some_iff h.countable).2 ⟨hholds, rfl⟩
  · rename_i hout
    rw [index?_eq, if_neg hout]

/-- Storing changes the texel at one place, or none. -/
theorem Sound.store_eq_ite (h : t.Sound) (x y : Int32) (layer : UInt32) (value : Color) :
    t.store x y layer value =
      if t.Holds x y layer then
        { t with texels := t.texels.setIfInBounds (t.place x y layer) (t.quantized value) }
      else t := by
  unfold store put
  rw [h.index?_eq_ite]
  by_cases hholds : t.Holds x y layer
  · rw [if_pos hholds, if_pos hholds]
  · rw [if_neg hholds, if_neg hholds]

/-- After every sequence of operations a texture has a texel for each place, every operation goes
through in its guarded form, each texel has a place of its own within the storage, and storing
changes the texel that it names and nothing else. -/
theorem storage_stays_sound (h : Reachable t) :
    t.texels.size = t.width.toNat * t.height.toNat * max t.layers.toNat 1 ∧
    (∀ op : Operation, op.Allowed t → op.guarded t = some (op.run t)) ∧
    (∀ x y layer,
      t.index? x y layer = if t.Holds x y layer then some (t.place x y layer) else none) ∧
    (∀ x y layer, t.Holds x y layer → t.place x y layer < t.texels.size) ∧
    (∀ x y layer x' y' layer', t.Holds x y layer → t.Holds x' y' layer' →
      t.place x y layer = t.place x' y' layer' → x = x' ∧ y = y' ∧ layer = layer') ∧
    (∀ x y layer value, t.store x y layer value = if t.Holds x y layer then
      { t with texels := t.texels.setIfInBounds (t.place x y layer) (t.quantized value) } else t) ∧
    (∀ layout width height layers data,
      (t.specify layout width height layers data).extent =
        (width, height, max (layers.getD 1) 1)) := by
  have hsound := h.sound
  refine ⟨?_, fun op => Operation.guarded_eq_run hsound, hsound.index?_eq_ite,
    fun x y layer => hsound.place_lt_size, fun x y layer x' y' layer' => place_inj,
    hsound.store_eq_ite, t.extent_specify⟩
  rw [hsound.size, Nat.max_eq_left hsound.layers]

/-- Two texels, specified with too few bytes for either, of which the second is stored to. -/
theorem storage_stays_sound_of_short_data :
    let layout : Layout := ⟨Constant.rgba8, Constant.rgba, Constant.unsignedByte⟩
    let t := (empty.specify layout 2 1 (some 0) (some [255])).store 1 0 0 Color.opaqueBlack
    Reachable t ∧ t.texels.size = 2 ∧ t.Holds 1 0 0 ∧ t.place 1 0 0 = 1 ∧
      ∀ op : Operation, op.Allowed t → op.guarded t = some (op.run t) := by
  intro layout t
  have hspecified : Reachable (empty.specify layout 2 1 (some 0) (some [255])) :=
    Reachable.empty.run (.specify layout 2 1 (some 0) (some [255]))
      ⟨by decide, by decide, by decide⟩
  have hstored : Reachable t :=
    hspecified.run (.store 1 0 0 Color.opaqueBlack) trivial
  obtain ⟨hsize, hguarded, -⟩ := storage_stays_sound hstored
  exact ⟨hstored, hsize, by decide, by decide, hguarded⟩

end Texture

end DrawPass.Software
