/-
DrawPass/Proofs/Bag.lean

What the uniforms of a draw are.

A bag is read entry by entry, but what comes of it does not depend on the order of the
entries as far as uniforms are concerned: the uniforms of a bag that is not refused are
its entries under names that are not reserved, with their values (`Params.get?_split`).  What is
drawn of a bag that is not refused is counted by its mesh and its grid (`Plan.ofBag_eq_ok`).
-/
import DrawPass.Renderer.Draw

namespace DrawPass

namespace Params

/-- What an entry does to the uniforms. -/
theorem get?_readEntry {read read' : Options × Uniform.Values} {name : String}
    {value : ParamValue} (h : readEntry read name value = .ok read') (key : String) :
    read'.2.get? key = if name = key ∧ OptionName.ofKey? name = none then value.uniform?
      else read.2.get? key := by
  unfold readEntry at h
  split at h
  · rename_i option hoption
    rw [if_neg (by simp [hoption])]
    cases hread : readOption read.1 option value with
    | error e =>
      rw [hread] at h
      cases h
    | ok options =>
      rw [hread] at h
      cases h
      rfl
  · rename_i hnone
    cases value with
    | text | texts => cases h
    | uniform v =>
      cases h
      rw [Table.get?_insert]
      simp [hnone, ParamValue.uniform?]

/-- What the entries of a bag do to the uniforms. -/
theorem get?_foldlM_readEntry {entries : List (String × ParamValue)}
    (hdistinct : (entries.map Prod.fst).Nodup) {read read' : Options × Uniform.Values}
    (h : entries.foldlM (fun read entry => readEntry read entry.1 entry.2) read = .ok read')
    (key : String) :
    read'.2.get? key = match Table.find key entries with
      | some value => if OptionName.ofKey? key = none then value.uniform? else read.2.get? key
      | none => read.2.get? key := by
  induction entries generalizing read with
  | nil =>
    cases h
    rfl
  | cons entry entries ih =>
    obtain ⟨name, value⟩ := entry
    rw [List.map_cons, List.nodup_cons] at hdistinct
    rw [List.foldlM_cons] at h
    rcases hentry : readEntry read name value with e | next <;> rw [hentry] at h
    · cases h
    rw [ih hdistinct.2 h, get?_readEntry hentry, Table.find]
    by_cases hkey : name = key
    · subst hkey
      have hnone := Table.find_eq_none hdistinct.1
      simp only [hnone, true_and, if_true]
    · simp only [hkey, false_and, if_false]

/-- The uniforms of a bag are its entries under names that are not reserved. -/
theorem get?_split {bag : Bag} {options : Options} {uniforms : Uniform.Values}
    (h : split bag = .ok (options, uniforms)) (key : String) :
    uniforms.get? key =
      if OptionName.ofKey? key = none then (bag.get? key).bind ParamValue.uniform? else none := by
  have hempty : (Table.empty : Uniform.Values).get? key = none := rfl
  rw [get?_foldlM_readEntry bag.distinct h key, hempty, Table.get?]
  cases Table.find key bag.entries <;> simp

end Params

/-- A bag that can be drawn has been parted, and its counts are those of its mesh and its grid. -/
theorem Plan.ofBag_eq_ok {bag : Params.Bag} {plan : Plan} (h : Plan.ofBag bag = .ok plan) :
    Params.split bag = .ok (plan.options, plan.uniforms) ∧
      Geometry.vertexCount plan.options.mesh.1 plan.options.mesh.2 = some plan.vertices ∧
      Geometry.instanceCount plan.options.grid.1 plan.options.grid.2.1 plan.options.grid.2.2 =
        some plan.instances := by
  have hread {options : Params.Options} {uniforms : Uniform.Values}
      (vertices instances : Option UInt32) (h : (do
        let vertices ← Params.expect .mesh "a vertex count within i32" vertices
        let instances ← Params.expect .grid "an instance count within i32" instances
        return { options, uniforms, vertices, instances } : Except DrawError Plan) = .ok plan) :
      options = plan.options ∧ uniforms = plan.uniforms ∧ vertices = some plan.vertices ∧
        instances = some plan.instances := by
    rcases vertices with _ | vertices
    · cases h
    rcases instances with _ | instances <;> cases h
    exact ⟨rfl, rfl, rfl, rfl⟩
  unfold Plan.ofBag at h
  rcases hsplit : Params.split bag with e | ⟨options, uniforms⟩ <;> rw [hsplit] at h
  · cases h
  · obtain ⟨rfl, rfl, hvertices, hinstances⟩ := hread _ _ h
    exact ⟨rfl, hvertices, hinstances⟩

end DrawPass
