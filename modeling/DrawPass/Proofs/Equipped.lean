/-
DrawPass/Proofs/Equipped.lean

What a renderer has on its device beside targets and programs.

Sampler objects are made for the modes of the samplers that draws read, and every one of them
is in the cache; the vertex array of the index array is the only one that is ever made
(`Renderer.Equipped`).  Draws add to the cache what they make, and nothing else has to do
with either.
-/
import DrawPass.Proofs.Programs

namespace DrawPass

open Gl DrawPass.Geometry Sampling Shader Software

namespace Store

variable {array : Name} {cache : Cache} {s s' : Store State}

/-- Every sampler object is in the cache, and the vertex array is the only one. -/
structure Equipped (array : Name) (cache : Cache) (s : Store State) : Prop where
  samplers : s.device.samplers ⊆ cache.objects.values
  vertexArrays : s.device.vertexArrays = [array]

theorem Equipped.of_eq (h : s.Equipped array cache)
    (hsamplers : s'.device.samplers = s.device.samplers)
    (harrays : s'.device.vertexArrays = s.device.vertexArrays) : s'.Equipped array cache :=
  ⟨hsamplers ▸ h.samplers, harrays.trans h.vertexArrays⟩

theorem Equipped.of_same (h : s.Equipped array cache) (hsame : SamePrograms s s') :
    s'.Equipped array cache := h.of_eq hsame.samplers hsame.vertexArrays

theorem perform_equipped (h : s.Equipped array cache) (command : Command Unit)
    (hkeeps : command.keepsPrograms) : (perform command s).2.Equipped array cache :=
  h.of_same (command_samePrograms command hkeeps s)

/-- A new sampler object is added to the cache. -/
theorem getOrCreate_equipped (h : s.Equipped array cache) (mode : Mode) :
    ((cache.getOrCreate mode : StateM (Store State) _) s).2.Equipped array
      ((cache.getOrCreate mode : StateM (Store State) _) s).1.2 := by
  unfold Cache.getOrCreate
  cases hmode : cache.objects.get? mode with
  | some id => exact h
  | none =>
    have hmodes : mode ∉ cache.objects.keys := by
      rw [Table.mem_keys_iff, hmode]
      exact Bool.false_ne_true
    refine ⟨?_, h.vertexArrays⟩
    change (s.device.lastName + 1) :: s.device.samplers ⊆ (cache.objects.insert mode _).values
    rw [Table.values_insert hmodes]
    exact List.cons_subset.2 ⟨List.mem_append_right _ (List.mem_singleton_self _),
      List.Subset.trans h.samplers (List.subset_append_left ..)⟩

theorem bind_equipped (h : s.Equipped array cache) (sampler : Sampler) (unit : UInt32) :
    ((sampler.bind unit cache : StateM (Store State) _) s).2.Equipped array
      ((sampler.bind unit cache : StateM (Store State) _) s).1 := by
  have refreshMips (stale : Bool) : Moves SamePrograms
      (sampler.refreshMips stale unit : StateM (Store State) Unit) := by
    unfold Sampler.refreshMips
    split
    · refine .bind (command_samePrograms _ rfl) fun _ => ?_
      exact .bind (command_samePrograms _ rfl) fun _ => .modify fun s => refl s.device
    · exact .pure _
  unfold Sampler.bind
  rw [run_get_bind]
  cases (s.target? sampler.texture.key).filter fun t => !t.freed with
  | none =>
    exact perform_equipped h (.bindTextureUnit unit sampler.texture.bindingPoint none none) rfl
  | some t =>
    have hrefreshed := h.of_same (refreshMips t.mipsStale s)
    let r₂ := (cache.getOrCreate sampler.mode : StateM (Store State) _)
      ((sampler.refreshMips t.mipsStale unit : StateM (Store State) Unit) s).2
    exact perform_equipped (getOrCreate_equipped hrefreshed sampler.mode)
      (.bindTextureUnit unit sampler.texture.bindingPoint (some sampler.texture.name) r₂.1.1) rfl

/-- Writing a uniform makes no objects. -/
theorem write?_equipped (h : s.Equipped array cache) {kind : UniformKind} {location : Location}
    {value : Uniform.Value} {command : Command Unit}
    (hwrite : kind.write? location value = some command) :
    (perform command s).2.Equipped array cache := by
  have hset (new : UniformValue) : (s.device.setUniform location new).samplers = s.device.samplers ∧
      (s.device.setUniform location new).vertexArrays = s.device.vertexArrays := by
    cases location <;> exact ⟨rfl, rfl⟩
  obtain ⟨_, _, rfl⟩ | ⟨_, _, rfl⟩ | ⟨_, _, rfl⟩ | ⟨_, _, rfl⟩ := write?_cases hwrite <;>
    exact h.of_eq (hset _).1 (hset _).2

theorem apply_equipped (h : s.Equipped array cache) (setter : Setter)
    (value : Option Uniform.Value) :
    ((setter.apply value cache : StateM (Store State) _) s).2.Equipped array
      ((setter.apply value cache : StateM (Store State) _) s).1 := by
  unfold Setter.apply
  rcases setter.slot with ⟨unit, target⟩ | kind <;> dsimp only
  · split
    · exact bind_equipped h _ unit
    · exact perform_equipped h (.bindTextureUnit unit target none none) rfl
  · cases hc : value.bind (kind.write? setter.location) with
    | none => exact h
    | some command =>
      obtain ⟨v, -, hwrite⟩ := Option.bind_eq_some_iff.1 hc
      exact write?_equipped h hwrite

/-- The uniforms of a program are written one after the other. -/
theorem applyUniforms_equipped (h : s.Equipped array cache) (program : Shader.Program)
    (values : Uniform.Values) :
    ((program.applyUniforms values cache : StateM (Store State) _) s).2.Equipped array
      ((program.applyUniforms values cache : StateM (Store State) _) s).1 := by
  unfold Program.applyUniforms
  generalize program.setters = setters
  induction setters generalizing s cache with
  | nil => exact h
  | cons setter setters ih =>
    rw [List.foldlM_cons]
    exact ih (apply_equipped h setter (values.get? setter.name))

end Store

namespace Renderer

variable {r r' : Renderer State} {bag : Params.Bag} {destination : Destination}

/-- Sampler objects and vertex arrays are those that the renderer knows. -/
def Equipped (r : Renderer State) : Prop := r.store.Equipped r.geometry.vertexArray r.samplers

theorem Equipped.of_idle (h : r.Equipped) (hsame : Idle r r') : r'.Equipped := by
  unfold Equipped
  rw [hsame.vertexArray, hsame.samplers]
  exact Store.Equipped.of_same h hsame.store

/-- Making a program makes no sampler objects and no vertex arrays. -/
theorem program_equipped (h : r.Equipped) (options : Params.Options) (uniforms : Uniform.Values) :
    ((program options uniforms).run r).2.Equipped := by
  let key : ProgramKey := ⟨options.includes, options.vertex, options.fragment⟩
  cases hkey : r.programs.programs.get? key with
  | some p =>
    rw [program_known hkey]
    exact h
  | none =>
    rcases hassemble : (assemble key uniforms : StateM (Renderer State) Sources) r with
      ⟨sources, r₁⟩
    have h₁ : r₁.Equipped := by
      rw [← show ((assemble key uniforms : StateM (Renderer State) Sources) r).2 = r₁ from
        congrArg Prod.snd hassemble]
      exact h
    rw [program_new rfl hkey hassemble]
    rcases hlink : (Program.link sources : Attempt DrawError (Renderer State) _).run r₁ with
      ⟨e | p, r₂⟩
    · exact h₁.of_idle (link_error_idle hlink)
    · obtain ⟨d, rfl, hlinks⟩ := run_link_ok hlink
      obtain ⟨_, _, _, _, -, hdevice⟩ := hlinks.device
      refine Store.Equipped.of_eq h₁ ?_ ?_
      · change d.samplers = _
        rw [hdevice]
      · change d.vertexArrays = _
        rw [hdevice]

/-- Sampler objects that are made while the values of a strip are written are in the cache. -/
theorem load_equipped (h : r.Equipped) (strip : Strip) : (strip.load r).2.Equipped := by
  obtain ⟨before, hready, hload⟩ := exists_readied strip r
  have hbefore : before.store.Equipped before.geometry.vertexArray before.samplers := by
    rw [hready.vertexArray, hready.samplers]
    exact Store.Equipped.of_eq h hready.objects hready.arrays
  rw [hload]
  exact Store.applyUniforms_equipped hbefore strip.program strip.values

theorem draw_equipped (h : r.Equipped) (bag : Params.Bag) (destination : Destination) :
    ((draw bag destination).run r).2.Equipped := by
  rw [draw_eq_reach]
  -- Without a strip to draw, nothing but the search for the program touches what must be equipped.
  have hunreached {result : Except DrawError _} {after : Renderer State}
      (hrun : (reach bag destination).run r = (result, after))
      (hresult : ∀ resolved strip, result ≠ .ok (resolved, some strip)) : after.Equipped :=
    unreached_rule (I := Equipped) (J := Equipped) hrun hresult
      (h.of_idle (settle_idle bag destination r))
      (fun resolved _ _ _ hsettled hbind => hsettled.of_idle ((bind_idle resolved).of_run hbind))
      (fun resolved _ _ _ hsettled hbind => hsettled.of_idle ((bind_idle resolved).of_run hbind))
      (fun plan view _ hbound => hbound.of_idle (wipe_idle plan view _))
      (fun options uniforms _ _ _ hwiped hprogram => by
        have hafter := program_equipped hwiped options uniforms
        rwa [hprogram] at hafter)
      (fun _ hwiped => hwiped.of_idle (setting_idle (.depthMask true) rfl _))
  rcases hrun : (reach bag destination).run r with ⟨e | ⟨resolved, strip⟩, moment⟩
  · rw [Attempt.run_bind_error hrun]
    exact hunreached hrun fun _ _ heq => nomatch heq
  rw [Attempt.run_bind_ok hrun]
  cases strip with
  | none => exact hunreached hrun fun _ _ heq => nomatch heq
  | some strip =>
    obtain ⟨settled, bound, after, hreached, rfl⟩ := exists_reached hrun
    obtain ⟨size, hbind, -⟩ := hreached.bind
    have hbound := (h.of_idle ((settle_idle bag destination).of_run hreached.settle)).of_idle
      ((bind_idle resolved).of_run hbind)
    have hfound := program_equipped (hbound.of_idle (wipe_idle strip.plan strip.view bound))
      strip.plan.options strip.uniforms
    rw [hreached.program] at hfound
    exact (load_equipped hfound strip).of_idle (finish_idle strip _)

/-- A reset leaves sampler objects and the index array alone. -/
theorem reset_equipped (h : r.Equipped) : (reset r).2.Equipped := by
  obtain ⟨-, -, hsamplers, harrays⟩ :=
    after_deletePrograms (r.programs.programs.values.map Program.name) r.store
  have hfreed : r.cleared.SamePrograms
      ((r.registry.freeAll : StateM (Store State) Registry) r.cleared).2 :=
    Store.freeAll_moves Store.permitsTargets_samePrograms.free r.registry r.cleared
  rw [run_reset]
  exact (Store.Equipped.of_eq h hsamplers harrays).of_same hfreed

/-- A new renderer has made its vertex array and no sampler objects. -/
theorem equipped_create {config : Config} {width height : UInt32}
    (hr : create config { device := State.new width height } = .ok r) : r.Equipped := by
  obtain ⟨capacity, buffers, log, -, rfl⟩ := create_eq hr
  exact ⟨List.nil_subset _, rfl⟩

end Renderer

/-- Every act leaves the renderer with what it knows of. -/
theorem Act.after_equipped (act : Act) {r : Renderer State} (h : r.Equipped) :
    (act.after r).Equipped := by
  by_cases hact : act.isAside
  · exact h.of_idle (Act.aside_idle hact r)
  · cases act with
    | reset => exact Renderer.reset_equipped h
    | draw bag destination => exact Renderer.draw_equipped h bag destination
    | _ => exact absurd rfl hact

theorem ReachableBy.equipped {P : Act → Prop} {r : Renderer State} (hr : ReachableBy P r) :
    r.Equipped :=
  hr.invariant (fun _ _ _ _ hr => Renderer.equipped_create hr) fun act _ _ h => act.after_equipped h

end DrawPass
