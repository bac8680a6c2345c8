/-
DrawPass/Proofs/MeshCover.lean

The strip covers the mesh.

A mesh is drawn as one triangle strip: three vertices in a row make up a triangle, and every other
triangle is turned round.  In the strip that has as many vertices as a draw counts, with the places
that the vertex main gives them, a triangle either is flat or is one half of a cell of the mesh.
Flat are those where one row ends and the next begins, for there the strip stands still
(`place_turn`).  The others are taken two by two: the four vertices at a cell are its corners
(`places_cell`), so two triangles make it up (`tile_cellAt`) and neither lies in another cell
(`AtCell.region_subset_iff`).  With one triangle for each number that belongs to a row and is not at
its end (`mem_proper`), all is counted (`strip_covers_mesh`).
-/
import DrawPass.Proofs.Counts
import DrawPass.Proofs.VertexPlace
import Mathlib.Analysis.Convex.Combination
import Mathlib.Order.CompletePartialOrder
import Mathlib.Topology.Instances.Real.Lemmas
import Mathlib.Tactic.Linarith
import Mathlib.Tactic.LinearCombination

namespace DrawPass.Geometry

open Topology

/-- A triangle by its corners, in the order in which they are drawn. -/
structure Triangle where
  a : Int × Int
  b : Int × Int
  c : Int × Int

/-- A place as a point of the plane. -/
def point (p : Int × Int) : ℝ × ℝ := (p.1, p.2)

namespace Triangle

/-- Twice the area of a triangle; it is negative if the corners go round clockwise. -/
def signedArea (t : Triangle) : Int :=
  (t.b.1 - t.a.1) * (t.c.2 - t.a.2) - (t.c.1 - t.a.1) * (t.b.2 - t.a.2)

/-- The points of a triangle. -/
def region (t : Triangle) : Set (ℝ × ℝ) := convexHull ℝ {point t.a, point t.b, point t.c}

end Triangle

/-- The triangle that a strip draws from a vertex and the two after it. Every other one is turned
round. -/
def stripTriangle (place : Nat → Int × Int) (k : Nat) : Triangle :=
  if k % 2 = 0 then ⟨place k, place (k + 1), place (k + 2)⟩
  else ⟨place (k + 1), place k, place (k + 2)⟩

/-- A unit cell of a mesh. -/
def cell (column row : Nat) : Set (ℝ × ℝ) := Set.Icc (column, row) (column + 1, row + 1)

/-- Two regions make up a third one and overlap at most in their borders. -/
structure Tile (A B C : Set (ℝ × ℝ)) : Prop where
  cover : A ∪ B = C
  apart : Disjoint (interior A) (interior B)

/-- The half of a unit square at one of its corners: `d` and `e` say to which side of the corner the
square lies. -/
def corner (a b d e : ℝ) : Set (ℝ × ℝ) :=
  {p | 0 ≤ d * (p.1 - a) ∧ 0 ≤ e * (p.2 - b) ∧ d * (p.1 - a) + e * (p.2 - b) ≤ 1}

variable {a b d e : ℝ}

theorem convex_corner : Convex ℝ (corner a b d e) := by
  rintro p ⟨hp, hp', hp''⟩ q ⟨hq, hq', hq''⟩ u v hu hv huv
  have hfirst : d * ((u • p + v • q).1 - a) = u * (d * (p.1 - a)) + v * (d * (q.1 - a)) := by
    simp only [Prod.fst_add, Prod.smul_fst, smul_eq_mul]
    linear_combination (d * a) * huv
  have hsecond : e * ((u • p + v • q).2 - b) = u * (e * (p.2 - b)) + v * (e * (q.2 - b)) := by
    simp only [Prod.snd_add, Prod.smul_snd, smul_eq_mul]
    linear_combination (e * b) * huv
  refine ⟨?_, ?_, ?_⟩
  · rw [hfirst]
    positivity
  · rw [hsecond]
    positivity
  · rw [hfirst, hsecond]
    calc _ = u * (d * (p.1 - a) + e * (p.2 - b)) + v * (d * (q.1 - a) + e * (q.2 - b)) := by ring
      _ ≤ u * 1 + v * 1 := by gcongr
      _ = 1 := by linarith

/-- Such a half is the triangle on the corner and its two neighbours. -/
theorem convexHull_corner (hd : d * d = 1) (he : e * e = 1) :
    convexHull ℝ {(a, b), (a + d, b), (a, b + e)} = corner a b d e := by
  refine Set.Subset.antisymm (convexHull_min ?_ convex_corner) ?_
  · rintro p (rfl | rfl | rfl) <;> refine ⟨?_, ?_, ?_⟩ <;> dsimp only <;> nlinarith
  · rintro p ⟨hp, hp', hp''⟩
    -- The weights of the three corners of the triangle.
    let weight : Fin 3 → ℝ :=
      ![1 - d * (p.1 - a) - e * (p.2 - b), d * (p.1 - a), e * (p.2 - b)]
    let place : Fin 3 → ℝ × ℝ := ![(a, b), (a + d, b), (a, b + e)]
    have hmean : ∑ i, weight i • place i = p := by
      simp only [weight, place, Fin.sum_univ_three, Matrix.cons_val]
      refine Prod.ext ?_ ?_ <;>
        simp only [Prod.fst_add, Prod.snd_add, Prod.smul_fst, Prod.smul_snd, smul_eq_mul]
      · linear_combination (p.1 - a) * hd
      · linear_combination (p.2 - b) * he
    rw [← hmean]
    refine (convex_convexHull ℝ _).sum_mem (fun i _ => ?_) ?_ fun i _ => subset_convexHull ℝ _ ?_
    · fin_cases i
      · exact sub_nonneg.2 (by linarith)
      · exact hp
      · exact hp'
    · simp only [weight, Fin.sum_univ_three, Matrix.cons_val]
      ring
    · fin_cases i <;> simp [place]

/-- The halves at two opposite corners make up a square. -/
theorem tile_corner (hd : d * d = 1) :
    Tile (corner a b d 1) (corner (a + d) (b + 1) (-d) (-1))
      {p | 0 ≤ d * (p.1 - a) ∧ d * (p.1 - a) ≤ 1 ∧ b ≤ p.2 ∧ p.2 ≤ b + 1} where
  cover := by
    ext p
    have hopposite : -d * (p.1 - (a + d)) = 1 - d * (p.1 - a) := by linear_combination hd
    simp only [corner, Set.mem_union, Set.mem_ofPred_eq, hopposite]
    constructor
    · rintro (⟨h, h', h''⟩ | ⟨h, h', h''⟩) <;> refine ⟨?_, ?_, ?_, ?_⟩ <;> linarith
    · rintro ⟨h, h', h'', h'''⟩
      rcases le_total (d * (p.1 - a) + (p.2 - b)) 1 with hle | hle
      · exact .inl ⟨h, by linarith, by linarith⟩
      · exact .inr ⟨by linarith, by linarith, by linarith⟩
  apart := by
    -- A point inside both would have to lie on the diagonal, and so would those above it.
    rw [Set.disjoint_left]
    intro p hp hp'
    obtain ⟨-, -, hbelow⟩ := interior_subset hp
    have habove : Filter.Tendsto (fun t : ℝ => (p.1, p.2 + t)) (𝓝[>] 0) (𝓝 p) := by
      have hline : Continuous fun t : ℝ => (p.1, p.2 + t) := by fun_prop
      exact (hline.tendsto' 0 p (by simp)).mono_left nhdsWithin_le_nhds
    obtain ⟨t, hinside, ht⟩ :=
      ((habove.eventually (mem_interior_iff_mem_nhds.1 hp)).and self_mem_nhdsWithin).exists
    obtain ⟨-, -, hbelow'⟩ := hinside
    obtain ⟨-, -, hover⟩ := interior_subset hp'
    have ht' : 0 < t := ht
    dsimp only at hbelow'
    nlinarith

/-! ### The triangles of a mesh -/

theorem region_stripTriangle (place : Nat → Int × Int) (k : Nat) :
    (stripTriangle place k).region =
      convexHull ℝ {point (place k), point (place (k + 1)), point (place (k + 2))} := by
  unfold stripTriangle
  split
  · rfl
  · exact congrArg (convexHull ℝ) (Set.insert_comm _ _ _)

open Shader (vertexPlace vertexPlace_row columnAt row_div_mod)

variable {columns row steps : Nat}

/-- To which side a row of the strip is walked. -/
def direction (row : Nat) : Int := if row % 2 = 0 then -1 else 1

/-- The column of the cell that is reached in a row after some columns. -/
def cellAt (columns row steps : Nat) : Nat := if row % 2 = 0 then columns - 1 - steps else steps

theorem direction_mul_self : direction row * direction row = 1 := by
  unfold direction
  split <;> rfl

theorem cellAt_lt (h : steps < columns) : cellAt columns row steps < columns := by
  unfold cellAt
  split <;> omega

/-- Every vertex belongs to a row. -/
theorem exists_row (columns k : Nat) :
    ∃ steps < 2 * columns + 3, k = k / (2 * columns + 3) * (2 * columns + 3) + steps :=
  ⟨_, Nat.mod_lt k (by omega), (Nat.div_add_mod' k _).symm⟩

/-- The columns of a row are walked back the way they were walked. -/
theorem cellAt_cellAt (h : steps < columns) :
    cellAt columns row (cellAt columns row steps) = steps := by
  unfold cellAt
  split <;> omega

theorem columnAt_succ (h : steps < columns) :
    ((columnAt columns row (steps + 1) : Nat) : Int) =
      columnAt columns row steps + direction row := by
  unfold columnAt direction
  split <;> omega

/-- The places of the four vertices at a cell. -/
theorem places_cell (row : Nat) (h : steps < columns) :
    let k := row * (2 * columns + 3) + 2 * steps
    let first : Int := columnAt columns row steps
    vertexPlace columns k = (first, (row : Int)) ∧
      vertexPlace columns (k + 1) = (first, (row : Int) + 1) ∧
      vertexPlace columns (k + 2) = (first + direction row, (row : Int)) ∧
      vertexPlace columns (k + 3) = (first + direction row, (row : Int) + 1) := by
  intro k first
  have hplace : ∀ i < 4, vertexPlace columns (k + i) =
      ((columnAt columns row (steps + i / 2) : Int), ((row + i % 2 : Nat) : Int)) := by
    intro i hi
    have hsteps : 2 * steps + i < 2 * columns + 3 := by omega
    have hmin : min (2 * steps + i) (2 * columns + 1) = 2 * steps + i := by omega
    have hhalf : (2 * steps + i) / 2 = steps + i / 2 := by omega
    have hline : (2 * steps + i) % 2 = i % 2 := by omega
    rw [Nat.add_assoc, vertexPlace_row hsteps, hmin, hhalf, hline]
  refine ⟨?_, ?_, ?_, ?_⟩
  · simpa using hplace 0 (by decide)
  · simpa using hplace 1 (by decide)
  · rw [hplace 2 (by decide), ← columnAt_succ h]
    rfl
  · rw [hplace 3 (by decide), ← columnAt_succ h]
    rfl

/-- Where one row ends and the next begins the strip stands still. -/
theorem place_turn {k : Nat} (h : 2 * columns ≤ k % (2 * columns + 3)) :
    vertexPlace columns k = vertexPlace columns (k + 1) ∨
      vertexPlace columns (k + 1) = vertexPlace columns (k + 2) := by
  obtain ⟨steps, hlt, hk⟩ := exists_row columns k
  generalize k / (2 * columns + 3) = row at hk
  subst hk
  rw [(row_div_mod row hlt).2] at h
  have hcases : steps = 2 * columns ∨ steps = 2 * columns + 1 ∨ steps = 2 * columns + 2 := by omega
  have hlast : min (2 * columns + 2) (2 * columns + 1) = min (2 * columns + 1) (2 * columns + 1) :=
    by omega
  rcases hcases with rfl | rfl | rfl
  · right
    -- The last vertex of a row is there twice, because its steps are clamped.
    rw [Nat.add_assoc, Nat.add_assoc, vertexPlace_row (by omega), vertexPlace_row (by omega), hlast]
  · left
    rw [Nat.add_assoc _ (2 * columns + 1), vertexPlace_row (by omega), vertexPlace_row (by omega),
      hlast]
  · left
    -- The next row begins in the column where this one ends.
    have hnext : row * (2 * columns + 3) + (2 * columns + 2) + 1 =
        (row + 1) * (2 * columns + 3) + 0 := by ring
    rw [hnext, vertexPlace_row (by omega), vertexPlace_row (by omega)]
    unfold columnAt
    refine Prod.ext ?_ ?_ <;> dsimp only
    · split <;> split <;> omega
    · omega

theorem signedArea_of_eq {place : Nat → Int × Int} {k : Nat}
    (h : place k = place (k + 1) ∨ place (k + 1) = place (k + 2)) :
    (stripTriangle place k).signedArea = 0 := by
  unfold stripTriangle Triangle.signedArea
  rcases h with h | h <;> rw [h] <;> split <;> dsimp only <;> ring

/-! ### The two triangles of a cell -/

/-- The cell that the strip reaches after some columns of a row, seen from where it is reached. -/
theorem cell_cellAt (h : steps < columns) :
    cell (cellAt columns row steps) row =
      {p : ℝ × ℝ | 0 ≤ (direction row : ℝ) * (p.1 - columnAt columns row steps) ∧
        (direction row : ℝ) * (p.1 - columnAt columns row steps) ≤ 1 ∧
        (row : ℝ) ≤ p.2 ∧ p.2 ≤ row + 1} := by
  ext p
  unfold cell cellAt columnAt direction
  rw [Set.mem_Icc, Prod.le_def, Prod.le_def, Set.mem_ofPred_eq]
  split
  · have hcolumn : ((columns - 1 - steps : Nat) : ℝ) = (columns - steps : Nat) - 1 := by
      rw [Nat.sub_right_comm, Nat.cast_sub (by omega), Nat.cast_one]
    rw [hcolumn]
    push_cast
    constructor
    · rintro ⟨⟨hleft, hbelow⟩, hright, habove⟩
      refine ⟨?_, ?_, ?_, ?_⟩ <;> linarith
    · rintro ⟨hright, hleft, hbelow, habove⟩
      refine ⟨⟨?_, ?_⟩, ?_, ?_⟩ <;> linarith
  · push_cast
    constructor
    · rintro ⟨⟨hleft, hbelow⟩, hright, habove⟩
      refine ⟨?_, ?_, ?_, ?_⟩ <;> linarith
    · rintro ⟨hleft, hright, hbelow, habove⟩
      refine ⟨⟨?_, ?_⟩, ?_, ?_⟩ <;> linarith

theorem direction_mul_self_real : (direction row : ℝ) * direction row = 1 :=
  mod_cast direction_mul_self

theorem region_even (h : steps < columns) :
    (stripTriangle (vertexPlace columns) (row * (2 * columns + 3) + 2 * steps)).region =
      corner (columnAt columns row steps) row (direction row) 1 := by
  obtain ⟨h0, h1, h2, -⟩ := places_cell row h
  rw [region_stripTriangle, h0, h1, h2, ← convexHull_corner direction_mul_self_real (one_mul 1),
    Set.pair_comm]
  simp [point]

theorem region_odd (h : steps < columns) :
    (stripTriangle (vertexPlace columns) (row * (2 * columns + 3) + 2 * steps + 1)).region =
      corner (columnAt columns row steps + direction row) (row + 1) (-direction row) (-1) := by
  obtain ⟨-, h1, h2, h3⟩ := places_cell row h
  have hd : -(direction row : ℝ) * -direction row = 1 := by
    rw [neg_mul_neg, direction_mul_self_real]
  rw [region_stripTriangle, Nat.add_assoc _ 1, Nat.add_assoc _ 1, h1, h2, h3, Set.pair_comm,
    Set.insert_comm, ← convexHull_corner hd (by norm_num)]
  simp [point]

/-- The rows of the strip are of odd length, so every other row begins with a triangle that is
turned round. -/
theorem row_mod_two (steps : Nat) : (row * (2 * columns + 3) + steps) % 2 = (row + steps) % 2 := by
  have hsplit : row * (2 * columns + 3) + steps = 2 * (row * columns + row) + (row + steps) := by
    ring
  omega

theorem signedArea_even (h : steps < columns) :
    (stripTriangle (vertexPlace columns) (row * (2 * columns + 3) + 2 * steps)).signedArea = 1 := by
  obtain ⟨h0, h1, h2, -⟩ := places_cell row h
  unfold stripTriangle Triangle.signedArea
  rw [h0, h1, h2, row_mod_two]
  unfold direction
  by_cases hrow : row % 2 = 0
  · rw [if_pos (by omega), if_pos hrow]
    ring
  · rw [if_neg (by omega), if_neg hrow]
    ring

theorem signedArea_odd (h : steps < columns) :
    (stripTriangle (vertexPlace columns)
      (row * (2 * columns + 3) + 2 * steps + 1)).signedArea = 1 := by
  obtain ⟨-, h1, h2, h3⟩ := places_cell row h
  unfold stripTriangle Triangle.signedArea
  rw [Nat.add_assoc _ 1, Nat.add_assoc _ 1, h1, h2, h3, Nat.add_assoc _ (2 * steps), row_mod_two]
  unfold direction
  by_cases hrow : row % 2 = 0
  · rw [if_neg (by omega), if_pos hrow]
    ring
  · rw [if_pos (by omega), if_neg hrow]
    ring

theorem point_mem_region {place : Nat → Int × Int} {k i : Nat} (hi : i < 3) :
    point (place (k + i)) ∈ (stripTriangle place k).region := by
  rw [region_stripTriangle]
  refine subset_convexHull ℝ _ ?_
  obtain rfl | rfl | rfl : i = 0 ∨ i = 1 ∨ i = 2 := by omega
  · exact .inl rfl
  · exact .inr (.inl rfl)
  · exact .inr (.inr rfl)

theorem point_mem_cell {p : Int × Int} {column row : Nat} :
    point p ∈ cell column row ↔
      (column ≤ p.1 ∧ p.1 ≤ column + 1) ∧ (row ≤ p.2 ∧ p.2 ≤ row + 1) := by
  unfold point cell
  rw [Set.mem_Icc, Prod.le_def, Prod.le_def]
  dsimp only
  norm_cast
  tauto

/-- A triangle of the strip at the cell that a row reaches after some columns. -/
def AtCell (columns row steps k : Nat) : Prop :=
  k = row * (2 * columns + 3) + 2 * steps ∨ k = row * (2 * columns + 3) + 2 * steps + 1

variable {k : Nat}

theorem exists_atCell (h : k % (2 * columns + 3) < 2 * columns) :
    ∃ steps < columns, AtCell columns (k / (2 * columns + 3)) steps k := by
  have hk := Nat.div_add_mod' k (2 * columns + 3)
  refine ⟨k % (2 * columns + 3) / 2, by omega, ?_⟩
  unfold AtCell
  omega

theorem AtCell.row_eq (h : steps < columns) (hk : AtCell columns row steps k) :
    k / (2 * columns + 3) = row ∧ k % (2 * columns + 3) / 2 = steps := by
  obtain ⟨rest, hrest, rfl⟩ : ∃ rest, (rest = 2 * steps ∨ rest = 2 * steps + 1) ∧
      k = row * (2 * columns + 3) + rest := by
    rcases hk with rfl | rfl
    · exact ⟨_, .inl rfl, rfl⟩
    · exact ⟨_, .inr rfl, Nat.add_assoc ..⟩
  have hlt : rest < 2 * columns + 3 := by omega
  obtain ⟨hrow, hsteps⟩ := row_div_mod row hlt
  rw [hrow, hsteps]
  omega

theorem AtCell.signedArea (h : steps < columns) (hk : AtCell columns row steps k) :
    (stripTriangle (vertexPlace columns) k).signedArea = 1 := by
  rcases hk with rfl | rfl
  · exact signedArea_even h
  · exact signedArea_odd h

theorem signedArea_ne_zero_iff :
    (stripTriangle (vertexPlace columns) k).signedArea ≠ 0 ↔
      k % (2 * columns + 3) < 2 * columns := by
  constructor
  · intro harea
    by_contra hturn
    exact harea (signedArea_of_eq (place_turn (by omega)))
  · intro hlt
    obtain ⟨steps, hsteps, hk⟩ := exists_atCell hlt
    rw [hk.signedArea hsteps]
    decide

/-- The two triangles at a cell make it up. -/
theorem tile_cellAt (h : steps < columns) :
    Tile (stripTriangle (vertexPlace columns) (row * (2 * columns + 3) + 2 * steps)).region
      (stripTriangle (vertexPlace columns) (row * (2 * columns + 3) + 2 * steps + 1)).region
      (cell (cellAt columns row steps) row) := by
  rw [region_even h, region_odd h, cell_cellAt h]
  exact tile_corner direction_mul_self_real

/-- A triangle at a cell lies in no other. -/
theorem AtCell.region_subset_iff (h : steps < columns) (hk : AtCell columns row steps k)
    {column line : Nat} :
    (stripTriangle (vertexPlace columns) k).region ⊆ cell column line ↔
      column = cellAt columns row steps ∧ line = row := by
  constructor
  · intro hsubset
    have hplace : ∀ i < 3, (column ≤ (vertexPlace columns (k + i)).1 ∧
        (vertexPlace columns (k + i)).1 ≤ column + 1) ∧
        (line ≤ (vertexPlace columns (k + i)).2 ∧ (vertexPlace columns (k + i)).2 ≤ line + 1) :=
      fun i hi => point_mem_cell.1 (hsubset (point_mem_region hi))
    obtain ⟨h0, h1, h2, h3⟩ := places_cell row h
    have hcell : cellAt columns row steps =
        min (columnAt columns row steps : Int) (columnAt columns row steps + direction row) := by
      unfold cellAt columnAt direction
      split <;> omega
    have hdirection : direction row = -1 ∨ direction row = 1 := by
      unfold direction
      split <;> simp
    have first := hplace 0 (by decide)
    have second := hplace 1 (by decide)
    have third := hplace 2 (by decide)
    -- Among its corners are places on both sides of the cell, so only one cell holds them all.
    rcases hk with rfl | rfl
    · rw [Nat.add_zero, h0] at first
      rw [h1] at second
      rw [h2] at third
      omega
    · rw [Nat.add_zero, h1] at first
      rw [Nat.add_assoc _ 1, h2] at second
      rw [Nat.add_assoc _ 1, h3] at third
      omega
  · rintro ⟨rfl, rfl⟩
    rw [← (tile_cellAt h).cover]
    rcases hk with rfl | rfl
    · exact Set.subset_union_left
    · exact Set.subset_union_right

/-- The two triangles at a cell are not the same. -/
theorem region_ne (h : steps < columns) :
    (stripTriangle (vertexPlace columns) (row * (2 * columns + 3) + 2 * steps)).region ≠
      (stripTriangle (vertexPlace columns) (row * (2 * columns + 3) + 2 * steps + 1)).region := by
  rw [region_even h, region_odd h]
  intro heq
  have hmem : ((columnAt columns row steps : ℝ), (row : ℝ)) ∈
      corner (columnAt columns row steps) row (direction row) 1 := by
    refine ⟨?_, ?_, ?_⟩ <;> simp
  rw [heq] at hmem
  obtain ⟨-, -, hfar⟩ := hmem
  have hd : (direction row : ℝ) * direction row = 1 := direction_mul_self_real
  dsimp only at hfar
  linarith

/-! ### The strip of a mesh -/

/-- The triangles of a strip that have an area. -/
def proper (place : Nat → Int × Int) (count : Nat) : Finset Nat :=
  {k ∈ Finset.range (count - 2) | (stripTriangle place k).signedArea ≠ 0}

/-- A strip covers a mesh. -/
structure Covers (place : Nat → Int × Int) (count columns rows : Nat) : Prop where
  /-- No vertex lies outside of the mesh. -/
  inside : ∀ v < count, place v ∈ Set.Icc (0, 0) ((columns : Int), (rows : Int))
  /-- There are two triangles for each cell. -/
  card : (proper place count).card = 2 * (columns * rows)
  /-- Every cell holds just two of the triangles, and they make it up. -/
  tiled : ∀ column < columns, ∀ row < rows, ∃ k k',
    k ≠ k' ∧
    {t | t ∈ proper place count ∧ (stripTriangle place t).region ⊆ cell column row} = {k, k'} ∧
    Tile (stripTriangle place k).region (stripTriangle place k').region (cell column row)
  /-- Every triangle lies in a cell. -/
  within : ∀ k ∈ proper place count, ∃ column < columns, ∃ row < rows,
    (stripTriangle place k).region ⊆ cell column row
  /-- No triangle is there twice. -/
  once : Set.InjOn (fun k => (stripTriangle place k).region) (proper place count)
  /-- All triangles are turned the same way. -/
  turned : ∀ k ∈ proper place count, 0 < (stripTriangle place k).signedArea

variable {rows : Nat}

theorem mem_proper :
    k ∈ proper (vertexPlace columns) ((2 * columns + 3) * rows - 1) ↔
      k / (2 * columns + 3) < rows ∧ k % (2 * columns + 3) < 2 * columns := by
  unfold proper
  rw [Finset.mem_filter, Finset.mem_range, signedArea_ne_zero_iff, and_congr_left_iff]
  intro hlt
  -- The strip lacks the last vertex of its last row, which only a flat triangle would use.
  have hk : (2 * columns + 3) * (k / (2 * columns + 3)) + k % (2 * columns + 3) = k :=
    Nat.div_add_mod ..
  constructor
  · intro hcount
    exact Nat.div_lt_of_lt_mul (by omega)
  · intro hrow
    have hrows : (2 * columns + 3) * (k / (2 * columns + 3) + 1) ≤ (2 * columns + 3) * rows :=
      Nat.mul_le_mul_left _ hrow
    rw [Nat.mul_add] at hrows
    omega

/-- A triangle that is not flat is known by its row and by its place in the row. -/
theorem card_proper :
    (proper (vertexPlace columns) ((2 * columns + 3) * rows - 1)).card = 2 * (columns * rows) := by
  have hpairs : (Finset.range rows ×ˢ Finset.range (2 * columns)).card = 2 * (columns * rows) := by
    rw [Finset.card_product, Finset.card_range, Finset.card_range]
    ring
  rw [← hpairs]
  refine Finset.card_nbij' (fun k => (k / (2 * columns + 3), k % (2 * columns + 3)))
    (fun p => p.1 * (2 * columns + 3) + p.2) ?_ ?_ ?_ ?_
  · intro k hk
    exact Finset.mem_product.2 ((mem_proper.1 hk).imp Finset.mem_range.2 Finset.mem_range.2)
  · rintro ⟨row, steps⟩ hp
    obtain ⟨hrow, hsteps⟩ := Finset.mem_product.1 hp
    have hsteps' : steps < 2 * columns := Finset.mem_range.1 hsteps
    have hlt : steps < 2 * columns + 3 := by omega
    obtain ⟨hdiv, hmod⟩ := row_div_mod row hlt
    refine mem_proper.2 ?_
    rw [hdiv, hmod]
    exact ⟨Finset.mem_range.1 hrow, hsteps'⟩
  · intro k _
    exact Nat.div_add_mod' ..
  · rintro ⟨row, steps⟩ hp
    have hsteps : steps < 2 * columns := Finset.mem_range.1 (Finset.mem_product.1 hp).2
    have hlt : steps < 2 * columns + 3 := by omega
    obtain ⟨hdiv, hmod⟩ := row_div_mod row hlt
    exact Prod.ext hdiv hmod

theorem place_mem {v : Nat} (h : v < (2 * columns + 3) * rows - 1) :
    vertexPlace columns v ∈ Set.Icc (0, 0) ((columns : Int), (rows : Int)) := by
  obtain ⟨steps, hlt, hv⟩ := exists_row columns v
  have hrows : v / (2 * columns + 3) < rows := Nat.div_lt_of_lt_mul (by omega)
  generalize v / (2 * columns + 3) = row at hv hrows
  rw [hv, vertexPlace_row hlt, Set.mem_Icc, Prod.mk_le_mk, Prod.mk_le_mk]
  unfold columnAt
  split <;> omega

/-- A cell holds the two triangles at it and no other. -/
theorem proper_at_cell {column : Nat} (hcolumn : column < columns) (hrow : row < rows) :
    {t | t ∈ proper (vertexPlace columns) ((2 * columns + 3) * rows - 1) ∧
        (stripTriangle (vertexPlace columns) t).region ⊆ cell column row} =
      {row * (2 * columns + 3) + 2 * cellAt columns row column,
        row * (2 * columns + 3) + 2 * cellAt columns row column + 1} := by
  ext t
  rw [Set.mem_ofPred_eq, Set.mem_insert_iff, Set.mem_singleton_iff]
  constructor
  · rintro ⟨ht, hsubset⟩
    obtain ⟨-, hlt⟩ := mem_proper.1 ht
    obtain ⟨steps, hsteps, hk⟩ := exists_atCell hlt
    obtain ⟨rfl, rfl⟩ := (hk.region_subset_iff hsteps).1 hsubset
    rw [cellAt_cellAt hsteps]
    exact hk
  · intro ht
    have hk : AtCell columns row (cellAt columns row column) t := ht
    have hlt : cellAt columns row column < columns := cellAt_lt hcolumn
    refine ⟨mem_proper.2 ⟨?_, ?_⟩, (hk.region_subset_iff hlt).2 ⟨?_, rfl⟩⟩
    · rw [(hk.row_eq hlt).1]
      exact hrow
    · rw [← signedArea_ne_zero_iff, hk.signedArea hlt]
      decide
    · rw [cellAt_cellAt hcolumn]

theorem injOn_region :
    Set.InjOn (fun k => (stripTriangle (vertexPlace columns) k).region)
      (proper (vertexPlace columns) ((2 * columns + 3) * rows - 1)) := by
  intro k hk l hl heq
  obtain ⟨steps, hsteps, hcell⟩ := exists_atCell (mem_proper.1 hk).2
  obtain ⟨steps', hsteps', hcell'⟩ := exists_atCell (mem_proper.1 hl).2
  have hsame : (stripTriangle (vertexPlace columns) k).region =
      (stripTriangle (vertexPlace columns) l).region := heq
  have hsubset := (hcell.region_subset_iff hsteps).2 ⟨rfl, rfl⟩
  rw [hsame] at hsubset
  obtain ⟨hcolumn, hrow⟩ := (hcell'.region_subset_iff hsteps').1 hsubset
  rw [hrow] at hcell hcolumn
  -- Both lie in one cell, which a row reaches only once.
  have hreached : steps = steps' := by
    have hback : cellAt columns (l / (2 * columns + 3))
        (cellAt columns (l / (2 * columns + 3)) steps) = steps := cellAt_cellAt hsteps
    rw [← hback, hcolumn, cellAt_cellAt hsteps']
  subst hreached
  generalize l / (2 * columns + 3) = row at hcell hcell'
  rcases hcell with rfl | rfl <;> rcases hcell' with rfl | rfl
  · rfl
  · exact absurd hsame (region_ne hsteps)
  · exact absurd hsame.symm (region_ne hsteps)
  · rfl

/-- The strip that is drawn for a mesh covers it. -/
theorem strip_covers_mesh {x y n : UInt32} (h : vertexCount x y = some n) :
    Covers (vertexPlace x.toNat) n.toNat x.toNat y.toNat := by
  rw [(vertexCount_eq_some h).1]
  exact {
    inside := fun v hv => place_mem hv
    card := card_proper
    tiled := by
      intro column hcolumn row hrow
      refine ⟨_, _, Nat.ne_of_lt (Nat.lt_succ_self _), proper_at_cell hcolumn hrow, ?_⟩
      have hlt : cellAt x.toNat row column < x.toNat := cellAt_lt hcolumn
      -- Every other row runs backwards, and turning a column around twice gives it back.
      have htile : Tile _ _ (cell (cellAt x.toNat row (cellAt x.toNat row column)) row) :=
        tile_cellAt hlt
      rw [cellAt_cellAt hcolumn] at htile
      exact htile
    within := by
      intro k hk
      obtain ⟨hrow, hlt⟩ := mem_proper.1 hk
      obtain ⟨steps, hsteps, hcell⟩ := exists_atCell hlt
      exact ⟨_, cellAt_lt hsteps, _, hrow, (hcell.region_subset_iff hsteps).2 ⟨rfl, rfl⟩⟩
    once := injOn_region
    turned := by
      intro k hk
      obtain ⟨steps, hsteps, hcell⟩ := exists_atCell (mem_proper.1 hk).2
      rw [hcell.signedArea hsteps]
      decide }

/-- A mesh of two by three cells. -/
theorem strip_covers_mesh_of_two_by_three :
    vertexCount 2 3 = some 20 ∧ Covers (vertexPlace 2) 20 2 3 :=
  ⟨by decide, strip_covers_mesh (x := 2) (y := 3) (n := 20) (by decide)⟩

end DrawPass.Geometry
