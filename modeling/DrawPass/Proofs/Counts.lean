/-
DrawPass/Proofs/Counts.lean

Counts are exact.

Vertices and instances are counted in 32 bits, step by step, and a count is refused as soon as a
step does not fit.  What is not refused is the count of unbounded arithmetic: no step wraps around
(`vertexCount_eq_some`, `instanceCount_eq_some`).  A step that does not fit means that the count
does not fit either, unless the last factor is zero: then there is nothing to draw, but a step
before may have been too large, and a count of zero is refused (`counts_exact`).

The largest count that one draw may have is the largest number of a signed word, so a count stays
the same one when it is handed to the device (`toInt_of_le_maxCount`), and twice what is needed, cut
off there, is still enough (`le_capacityFor`).

The index array holds its integers as words of four bytes, and they are read back from it
(`words_indexBytes`).
-/
import DrawPass.Geometry.IndexArray
import DrawPass.Params.Options
import DrawPass.Proofs.PixelBytes

namespace DrawPass

namespace Geometry

/-! ### Steps -/

variable {a b n : UInt32}

/-- A step that wraps around, refused where it would, gives the number of unbounded arithmetic. -/
theorem checked_eq_some {k : Nat} {word : UInt32} (hword : word.toNat = k % UInt32.size) :
    (if k < UInt32.size then some word else none) = some n ↔ n.toNat = k := by
  split
  · rename_i hfits
    rw [Option.some.injEq, ← UInt32.toNat_inj, hword, Nat.mod_eq_of_lt hfits]
    exact eq_comm
  · rename_i hlarge
    refine ⟨nofun, fun h => absurd ?_ hlarge⟩
    rw [← h]
    exact n.toNat_lt

theorem checkedMul_eq_some : checkedMul a b = some n ↔ n.toNat = a.toNat * b.toNat :=
  checked_eq_some (UInt32.toNat_mul a b)

theorem checkedAdd_eq_some : checkedAdd a b = some n ↔ n.toNat = a.toNat + b.toNat :=
  checked_eq_some (UInt32.toNat_add a b)

theorem checkCount_eq_some : checkCount a = some n ↔ a = n ∧ n ≤ maxCount := by
  unfold checkCount
  split
  · rename_i hle
    rw [Option.some.injEq]
    exact ⟨fun h => ⟨h, h ▸ hle⟩, And.left⟩
  · rename_i hlarge
    refine ⟨nofun, fun ⟨h, hle⟩ => absurd ?_ hlarge⟩
    rwa [h]

/-! ### Counts -/

variable {x y z : UInt32}

/-- A number that fits 32 bits is that of a word. -/
theorem exists_toNat_eq {k : Nat} (h : k < UInt32.size) : ∃ word : UInt32, word.toNat = k :=
  ⟨UInt32.ofNat k, UInt32.toNat_ofNat_of_lt' h⟩

/-- A factor fits if the product does and the other factor is not zero. -/
theorem lt_size_of_mul_le {k m : Nat} (h : k * a.toNat ≤ m) (hm : m < UInt32.size)
    (hzero : ¬ (a = 0 ∧ UInt32.size ≤ k)) : k < UInt32.size := by
  refine Nat.lt_of_not_le fun hlarge => ?_
  have hpos : 0 < a.toNat := by
    rw [Nat.pos_iff_ne_zero, Ne, ← UInt32.toNat_zero, UInt32.toNat_inj]
    exact fun ha => hzero ⟨ha, hlarge⟩
  have hle : k ≤ k * a.toNat := Nat.le_mul_of_pos_right k hpos
  omega

/-- The last vertex is left out, if there is one. -/
theorem toNat_withoutLast (count : UInt32) :
    (if count = 0 then 0 else count - 1).toNat = count.toNat - 1 := by
  split
  · rename_i hnone
    rw [hnone]
    rfl
  · rename_i hsome
    have hpos : 1 ≤ count := UInt32.pos_iff_ne_zero.2 hsome
    rw [UInt32.toNat_sub_of_le count 1 hpos]
    rfl

/-- The vertices of a strip, if there are not too many, and not too many of a row that is not
there. -/
theorem vertexCount_eq_some_iff : vertexCount x y = some n ↔
    ¬ (y = 0 ∧ UInt32.size ≤ 2 * x.toNat + 3) ∧
      n.toNat = (2 * x.toNat + 3) * y.toNat - 1 ∧ n ≤ maxCount := by
  constructor
  · intro h
    unfold vertexCount at h
    obtain ⟨double, hdouble, h⟩ := Option.bind_eq_some_iff.1 h
    obtain ⟨row, hrow, h⟩ := Option.bind_eq_some_iff.1 h
    obtain ⟨count, hcount, h⟩ := Option.bind_eq_some_iff.1 h
    obtain ⟨hn, hle⟩ := checkCount_eq_some.1 h
    rw [checkedMul_eq_some] at hdouble hcount
    rw [checkedAdd_eq_some, hdouble, Nat.mul_comm] at hrow
    change row.toNat = 2 * x.toNat + 3 at hrow
    refine ⟨?_, ?_, hle⟩
    · rw [← hrow]
      exact fun hlarge => Nat.not_le_of_lt row.toNat_lt hlarge.2
    · rw [← hn, toNat_withoutLast, hcount, hrow]
  · rintro ⟨hzero, hn, hle⟩
    -- The final count bounds every number on the way to it, so no step overflows.
    have hlimit : n.toNat ≤ 2147483647 := UInt32.le_iff_toNat_le.1 hle
    have hproduct : (2 * x.toNat + 3) * y.toNat ≤ 2147483648 := by omega
    have hfits := lt_size_of_mul_le hproduct (by decide) hzero
    obtain ⟨double, hdouble⟩ := exists_toNat_eq (k := x.toNat * 2) (by omega)
    obtain ⟨row, hrow⟩ := exists_toNat_eq hfits
    obtain ⟨count, hcount⟩ :=
      exists_toNat_eq (Nat.lt_of_le_of_lt hproduct (by decide : 2147483648 < UInt32.size))
    refine Option.bind_eq_some_iff.2 ⟨double, checkedMul_eq_some.2 hdouble, ?_⟩
    refine Option.bind_eq_some_iff.2 ⟨row, checkedAdd_eq_some.2 ?_, ?_⟩
    · rw [hrow, hdouble, Nat.mul_comm]
      rfl
    refine Option.bind_eq_some_iff.2 ⟨count, checkedMul_eq_some.2 (by rw [hcount, hrow]), ?_⟩
    refine checkCount_eq_some.2 ⟨UInt32.toNat_inj.1 ?_, hle⟩
    rw [toNat_withoutLast, hcount, hn]

/-- The instances of a grid, if there are not too many, and not too many of a layer that is not
there. -/
theorem instanceCount_eq_some_iff : instanceCount x y z = some n ↔
    ¬ (z = 0 ∧ UInt32.size ≤ x.toNat * y.toNat) ∧
      n.toNat = x.toNat * y.toNat * z.toNat ∧ n ≤ maxCount := by
  constructor
  · intro h
    unfold instanceCount at h
    obtain ⟨layer, hlayer, h⟩ := Option.bind_eq_some_iff.1 h
    obtain ⟨count, hcount, h⟩ := Option.bind_eq_some_iff.1 h
    obtain ⟨rfl, hle⟩ := checkCount_eq_some.1 h
    rw [checkedMul_eq_some] at hlayer hcount
    refine ⟨?_, ?_, hle⟩
    · rw [← hlayer]
      exact fun hlarge => Nat.not_le_of_lt layer.toNat_lt hlarge.2
    · rw [hcount, hlayer]
  · rintro ⟨hzero, hn, hle⟩
    obtain ⟨layer, hlayer⟩ :=
      exists_toNat_eq (lt_size_of_mul_le (Nat.le_of_eq hn.symm) n.toNat_lt hzero)
    refine Option.bind_eq_some_iff.2 ⟨layer, checkedMul_eq_some.2 hlayer, ?_⟩
    refine Option.bind_eq_some_iff.2 ⟨n, checkedMul_eq_some.2 (by rw [hn, hlayer]), ?_⟩
    exact checkCount_eq_some.2 ⟨rfl, hle⟩

theorem vertexCount_eq_some (h : vertexCount x y = some n) :
    n.toNat = (2 * x.toNat + 3) * y.toNat - 1 ∧ n ≤ maxCount :=
  (vertexCount_eq_some_iff.1 h).2

theorem instanceCount_eq_some (h : instanceCount x y z = some n) :
    n.toNat = x.toNat * y.toNat * z.toNat ∧ n ≤ maxCount :=
  (instanceCount_eq_some_iff.1 h).2

/-- A count of unbounded arithmetic, if one draw may have it. -/
def drawable (count : Int) : Option Int := if count ≤ maxCount.toNat then some count else none

/-- A count that is found just if it fits, and a condition holds, is the unbounded one then. -/
theorem map_toNat_eq_drawable {count : Option UInt32} {refused : Prop} [Decidable refused] {k : Nat}
    (h : ∀ n, count = some n ↔ ¬ refused ∧ n.toNat = k ∧ n ≤ maxCount) :
    (count.map fun n => (n.toNat : Int)) = if refused then none else drawable k := by
  unfold drawable
  cases count with
  | none =>
    split
    · rfl
    · rename_i hnot
      rw [if_neg]
      · rfl
      · intro hle
        have hle : k ≤ maxCount.toNat := Int.ofNat_le.1 hle
        obtain ⟨n, hn⟩ := exists_toNat_eq (Nat.lt_of_le_of_lt hle maxCount.toNat_lt)
        cases (h n).2 ⟨hnot, hn, UInt32.le_iff_toNat_le.2 (hn ▸ hle)⟩
  | some n =>
    obtain ⟨hnot, rfl, hle⟩ := (h n).1 rfl
    rw [if_neg hnot, if_pos (Int.ofNat_le.2 (UInt32.le_iff_toNat_le.1 hle))]
    rfl

/-- Counts are those of unbounded arithmetic as long as one draw may have that many, and refused
otherwise, with one exception each: a mesh without rows whose rows would be too long, and a grid
without layers whose layers would be too large, have a count of zero, which is refused. -/
theorem counts_exact (x y a b c : UInt32) :
    ((vertexCount x y).map fun n => (n.toNat : Int)) =
        (if y = 0 ∧ 2 ^ 32 ≤ 2 * x.toNat + 3 then none
          else drawable (max ((2 * (x.toNat : Int) + 3) * y.toNat - 1) 0)) ∧
      ((instanceCount a b c).map fun n => (n.toNat : Int)) =
        if c = 0 ∧ 2 ^ 32 ≤ a.toNat * b.toNat then none
        else drawable ((a.toNat : Int) * b.toNat * c.toNat) := by
  constructor
  · have hmax : max ((2 * (x.toNat : Int) + 3) * y.toNat - 1) 0 =
        ((2 * x.toNat + 3) * y.toNat - 1 : Nat) := by
      have hproduct :
          (2 * (x.toNat : Int) + 3) * y.toNat = ((2 * x.toNat + 3) * y.toNat : Nat) := by
        push_cast
        rfl
      rw [hproduct]
      omega
    rw [hmax]
    exact map_toNat_eq_drawable fun _ => vertexCount_eq_some_iff
  · have hproduct : (a.toNat : Int) * b.toNat * c.toNat = (a.toNat * b.toNat * c.toNat : Nat) := by
      push_cast
      rfl
    rw [hproduct]
    exact map_toNat_eq_drawable fun _ => instanceCount_eq_some_iff

/-- Nothing is to be drawn of this mesh, but a row of it would have too many vertices. -/
example : vertexCount 2147483647 0 = none := by decide

/-- A count is the same number as a signed word. -/
theorem toInt_of_le_maxCount (h : n ≤ maxCount) : n.toInt32.toInt = n.toNat := by
  rw [← UInt32.ofNat_toNat (x := n), UInt32.toInt32_ofNat', UInt32.ofNat_toNat]
  exact Int32.toInt_ofNat_of_lt (Nat.lt_succ_of_le (UInt32.le_iff_toNat_le.1 h))

/-! ### Capacities -/

theorem toNat_max (a b : UInt32) : (max a b).toNat = max a.toNat b.toNat := by
  show (if a ≤ b then b else a).toNat = _
  split
  · rename_i h
    exact (Nat.max_eq_right (UInt32.le_iff_toNat_le.1 h)).symm
  · rename_i h
    rw [UInt32.le_iff_toNat_le] at h
    exact (Nat.max_eq_left (Nat.le_of_not_le h)).symm

/-- What is made is enough, unless more is asked for than one draw can use. -/
theorem le_capacityFor (needed : UInt32) :
    min needed.toNat maxCount.toNat ≤ (IndexArray.capacityFor needed).toNat := by
  have hfits : min (2 * needed.toNat) maxCount.toNat < UInt32.size :=
    Nat.lt_of_le_of_lt (Nat.min_le_right ..) (by decide)
  unfold IndexArray.capacityFor
  rw [UInt32.toNat_ofNat_of_lt' hfits]
  omega

/-! ### Integers -/

theorem length_indexBytes (count : UInt32) : (indexBytes count).length = 4 * count.toNat := by
  unfold indexBytes
  simp only [List.length_flatMap, Pixel.length_bytesOf, List.map_const', List.sum_replicate_nat,
    List.length_range, Nat.mul_comm]

/-- The integers in an index array. -/
theorem words_indexBytes (count : UInt32) :
    (Pixel.chunks 4 (indexBytes count)).map Pixel.wordOf = List.range count.toNat := by
  refine Pixel.chunks_flatMap_bytesOf (by decide) fun w hw => ?_
  exact Nat.lt_trans (List.mem_range.1 hw) count.toNat_lt

end Geometry

/-! ### What is drawn -/

/-- What the device is told to draw of a mesh and a grid: as many vertices and instances as
unbounded arithmetic counts, none of them a negative number or more than an index array holds. -/
structure Params.Options.Counted (o : Params.Options) (capacity : UInt32)
    (count instances : Int32) : Prop where
  countExact : count.toInt = max ((2 * (o.mesh.1.toNat : Int) + 3) * o.mesh.2.toNat - 1) 0
  instancesExact : instances.toInt = (o.grid.1.toNat : Int) * o.grid.2.1.toNat * o.grid.2.2.toNat
  countWithin : 0 ≤ count.toInt ∧ count.toInt ≤ 2147483647 ∧ count.toInt ≤ capacity.toNat
  instancesWithin :
    0 ≤ instances.toInt ∧ instances.toInt ≤ 2147483647 ∧ instances.toInt ≤ capacity.toNat

/-- Counts that are not refused are exact, also as the signed words that the device is given. -/
theorem Params.Options.Counted.of_counts {o : Params.Options} {capacity vertices instances : UInt32}
    (hvertices : Geometry.vertexCount o.mesh.1 o.mesh.2 = some vertices)
    (hinstances : Geometry.instanceCount o.grid.1 o.grid.2.1 o.grid.2.2 = some instances)
    (hfitsVertices : vertices.toNat ≤ capacity.toNat)
    (hfitsInstances : instances.toNat ≤ capacity.toNat) :
    o.Counted capacity vertices.toInt32 instances.toInt32 := by
  obtain ⟨hcount, hle⟩ := Geometry.vertexCount_eq_some hvertices
  obtain ⟨hproduct, hle'⟩ := Geometry.instanceCount_eq_some hinstances
  have hsigned := Geometry.toInt_of_le_maxCount hle
  have hsigned' := Geometry.toInt_of_le_maxCount hle'
  have within {n : UInt32} (hn : n ≤ Geometry.maxCount) (hfits : n.toNat ≤ capacity.toNat) :
      0 ≤ n.toInt32.toInt ∧ n.toInt32.toInt ≤ 2147483647 ∧
        n.toInt32.toInt ≤ capacity.toNat := by
    rw [Geometry.toInt_of_le_maxCount hn]
    exact ⟨Int.natCast_nonneg _, Int.ofNat_le.2 (UInt32.le_iff_toNat_le.1 hn),
      Int.ofNat_le.2 hfits⟩
  refine ⟨?_, ?_, within hle hfitsVertices, within hle' hfitsInstances⟩
  · have hmax (n : Nat) : ((n - 1 : Nat) : Int) = max ((n : Int) - 1) 0 := by omega
    rw [hsigned, hcount, hmax, Int.natCast_mul, Int.natCast_add, Int.natCast_mul]
    rfl
  · rw [hsigned', hproduct, Int.natCast_mul, Int.natCast_mul]

end DrawPass
