/-
DrawPass/Proofs/StoryHistory.lean

A story is a history of what was drawn into it.

A *write* is a draw that goes into a story and gets as far as binding a slot of it: a
draw through a spec unless it only prepares the target, and every draw through a handle.
As long as draws that go into a story are not refused and nothing else turns it, the
slots of the story are the targets that the last writes have bound, the latest first,
and behind them what is left of the slots in the order in which they were made
(`story_is_history`).  What a write is given as `Src` is the slot that the write before
it has bound.

Which slot a write binds is read off the device: it is the target whose framebuffer is
bound (`Store.boundTarget?`), and there is only one, because targets do not share
framebuffers.  The rest is an induction on the acts of the run.  One act either leaves
the story as it is, or is a write and turns it once (`Act.story_after`).
-/
import DrawPass.Proofs.Bag
import DrawPass.Proofs.FailedPreparation
import DrawPass.Proofs.Owned
import DrawPass.Proofs.StoryOrder

namespace DrawPass

open Gl Software

/-! ### What is bound -/

namespace Store

variable {s s' : Store State} {key : TargetKey}

/-- The target whose framebuffer is bound. -/
def boundTarget? (s : Store State) : Option TargetKey :=
  s.device.boundFramebuffer.bind fun id =>
    s.targets.keys.find? fun key => decide (s.framebuffer? key = some id)

/-- Only one target has the framebuffer that is bound. -/
theorem boundTarget?_eq (hs : s.Owned) {id : Name} (hid : s.framebuffer? key = some id)
    (hbound : s.device.boundFramebuffer = some id) : s.boundTarget? = some key := by
  have hkey : key ∈ s.targets.keys := by
    cases ht : s.target? key with
    | none =>
      rw [framebuffer?, ht] at hid
      cases hid
    | some t => exact Table.mem_keys_iff.2 (Option.isSome_of_mem ht)
  rw [boundTarget?, hbound, Option.bind_some]
  cases hfind : s.targets.keys.find? fun key => decide (s.framebuffer? key = some id) with
  | none => exact absurd (decide_eq_true hid) (List.find?_eq_none.1 hfind key hkey)
  | some key' =>
    have htrue := List.find?_some hfind
    have hid' : s.framebuffer? key' = some id := of_decide_eq_true htrue
    exact congrArg some (hs.ownFramebuffer key' key id hid' hid)

/-- A target that has been bound has its framebuffer bound. -/
theorem run_bindTarget_ok {readOnly : Bool} {size : UInt32 × UInt32}
    (h : (bindTarget key readOnly).run s = (.ok size, s')) :
    ∃ id, s'.framebuffer? key = some id ∧ s'.device.boundFramebuffer = some id := by
  obtain ⟨t, s₁, ht, -, -, hbound, rfl⟩ := run_bindTarget_eq_ok h
  have hfirst : ∃ id, s₁.framebuffer? key = some id ∧ s₁.device.boundFramebuffer = some id := by
    obtain ⟨id, hid, rfl⟩ | hmade := hbound
    · exact ⟨id, (framebuffer?_of_target? ht).trans hid, rfl⟩
    · obtain ⟨-, -, -, hlook⟩ := hmade.targets ht
      exact ⟨_, (hlook key).trans (if_pos rfl), hmade.bound⟩
  have hmark : (s₁.modifyTarget key fun t => { t with mipsStale := true }).framebuffer? =
      s₁.framebuffer? :=
    (sameTargets_modifyTarget s₁ key (f := fun t => { t with mipsStale := true })
      fun t => ⟨rfl, rfl, rfl, rfl, rfl, rfl⟩).framebuffer
  cases readOnly
  · obtain ⟨id, hid, hcurrent⟩ := hfirst
    exact ⟨id, (congrFun hmark key).trans hid, hcurrent⟩
  · exact hfirst

/-! ### Steps that leave a story as it is -/

/-- The story of a key stays as it is, if there is one. -/
def KeepsStory (key : StoryKey) (s s' : Store State) : Prop :=
  s.Owned → s'.Owned ∧ ∀ story, s.story? key = some story → s'.story? key = some story

variable {key : StoryKey}

instance : IsPreorder (Store State) (KeepsStory key) where
  refl s h := ⟨h, fun _ => id⟩
  trans s s' s'' h h' hs := by
    obtain ⟨hs', hsame⟩ := h hs
    obtain ⟨hs'', hsame'⟩ := h' hs'
    exact ⟨hs'', fun story hstory => hsame' story (hsame story hstory)⟩

theorem keepsStory_of_same (howning : Owning s s') (hstories : s'.stories = s.stories) :
    KeepsStory key s s' := fun hs =>
  ⟨howning hs, fun story hstory => by rwa [story?, hstories]⟩

theorem permitsContents_keepsStory : PermitsContents (KeepsStory key) where
  plain command hfixed hobjects s :=
    keepsStory_of_same (permitsContents_owning.plain command hfixed hobjects s) rfl
  contents s key' f hf := keepsStory_of_same (permitsContents_owning.contents s key' f hf) rfl

theorem permitsReads_keepsStory : PermitsReads (KeepsStory key) where
  command command hfixed hframes hspecifies s :=
    keepsStory_of_same (permitsReads_owning.command command hfixed hframes hspecifies s) rfl
  pool s key' f := keepsStory_of_same (permitsReads_owning.pool s key' f) rfl
  reads s s' hdevice htargets hstories :=
    keepsStory_of_same (permitsReads_owning.reads s s' hdevice htargets hstories) hstories

theorem free_keepsStory (target : TargetKey) :
    Moves (KeepsStory key) (free target : StateM (Store State) Unit) := fun s =>
  keepsStory_of_same (free_owning target s)
    (free_moves Renderer.permitsParts_sameStories target s)

/-- A story that is made has a key of its own. -/
theorem make_keepsStory (spec : TargetSpec) (d : TargetDescription) :
    Attempt.Moves (KeepsStory key)
      (Registry.make spec d : Attempt DrawError (Store State) Entry) := by
  intro s hs
  refine make_moves_at (R := KeepsStory key) (update_moves permitsContents_keepsStory) free_keepsStory
    (fun s => ?_) (fun s s' _ _ _ hnew hkeeps hown _ =>
      keepsStory_of_same (fun h => h.added hnew hkeeps hown) hnew.stories)
    (fun s story _ hwf hslots h => ⟨h.addStory hwf hslots, fun story' hstory' => ?_⟩)
    spec d hs.toWellFormed hs
  · exact keepsStory_of_same (refuse_owning s) rfl
  · have hne : (⟨s.stories.size⟩ : StoryKey) ≠ key := by
      rintro rfl
      rw [h.story?_next] at hstory'
      cases hstory'
    rw [story?, addStory, Table.get?_insert, if_neg hne]
    exact hstory'

theorem permits_keepsStory : Permits (KeepsStory key) fun _ => True where
  toPermitsContents := permitsContents_keepsStory
  makeFramebuffer s key' t ht _ _ := keepsStory_of_same (makeFramebuffer_owning ht)
    (makeFramebuffer_moves Renderer.permitsParts_sameStories.toFramebuffers key' t s)
  free := free_keepsStory
  make _ spec _ _ _ := make_keepsStory spec _

/-- Another story may turn. -/
theorem rotate_keepsStory {key' : StoryKey} (hne : key' ≠ key) (s : Store State) :
    KeepsStory key s (s.rotate key') := by
  refine fun hs => ⟨rotate_owning s key' hs, fun story hstory => ?_⟩
  rw [story?, rotate, Table.get?_modify, if_neg hne]
  exact hstory

end Store

namespace Renderer

variable {r r' settled : Renderer State} {key : StoryKey} {story : Story} {bag : Params.Bag}
  {destination : Destination} {plan : Plan} {blend : Option Blend.State} {resolved : Resolved}

/-! ### Settling on a story -/

/-- A draw that has settled has read its bag, and then found or made its target. -/
theorem run_settle_eq_ok
    (h : (settle bag destination).run r = (.ok (plan, blend, resolved), settled)) :
    Plan.ofBag bag = .ok plan ∧ ∃ r₁, r₁.store = r.store ∧ r₁.registry = r.registry ∧
      (resolve destination).run r₁ = (.ok resolved, settled) := by
  unfold settle at h
  obtain ⟨plan', r₀, hread, h⟩ := Attempt.run_bind_eq_ok.1 h
  rw [Attempt.run_ofExcept] at hread
  injection hread with hplan hr
  subst hr
  obtain ⟨blend', r₁, hblend, h⟩ := Attempt.run_bind_eq_ok.1 h
  obtain ⟨resolved', r₂, hresolve, h⟩ := Attempt.run_bind_eq_ok.1 h
  cases h
  obtain ⟨hstore, hregistry⟩ := blendState_same plan.options.blend r
  rw [hblend] at hstore hregistry
  exact ⟨hplan, r₁, hstore, hregistry, hresolve⟩

/-- A target that has been prepared for a spec. -/
theorem resolve_spec_eq_ok {spec : TargetSpec} {r : Renderer State}
    (h : (resolve (.spec spec)).run r = (.ok resolved, settled)) :
    ∃ registry, (r.registry.prepare spec).run r.store = (.ok (resolved, registry), settled.store) := by
  unfold resolve at h
  rw [Attempt.run_bind_ok (Attempt.run_get r)] at h
  have htry := run_tryOnStore (r.registry.prepare spec) r
  rcases hprepare : (r.registry.prepare spec).run r.store with ⟨e | ⟨resolved', registry⟩, s'⟩ <;>
    rw [hprepare] at htry
  · rw [Attempt.run_bind_error htry] at h
    cases h
  · rw [Attempt.run_bind_ok htry] at h
    cases h
    exact ⟨registry, rfl⟩

/-- What a spec of a tag that is not known makes. -/
theorem prepare_new_eq_ok {registry registry' : Registry} {spec : TargetSpec} {s s' : Store State}
    (hnew : registry.entries.get? spec.tag = none)
    (h : (registry.prepare spec).run s = (.ok (resolved, registry'), s')) :
    ∃ format entry, resolved = entry.resolved ∧ (Registry.make spec (registry.describe spec format
      (spec.resolveSize (Registry.surface s)))).run s = (.ok entry, s') := by
  by_cases haccepts : ∃ format, registry.Accepts s spec format
  · obtain ⟨format, haccepts⟩ := haccepts
    rw [Registry.run_prepare haccepts, hnew] at h
    obtain ⟨entry, s₁, hmake, h⟩ := Attempt.run_bind_eq_ok.1 h
    cases h
    exact ⟨format, entry, rfl, hmake⟩
  · obtain ⟨e, herror⟩ := Registry.prepare_refused haccepts
    rw [herror] at h
    cases h

/-- A spec whose draw settles on a story either names it or makes it. -/
theorem settle_story_cases {spec : TargetSpec}
    (h : (settle bag (.spec spec)).run r = (.ok (plan, blend, .story key), settled)) :
    r.registry.entries.get? spec.tag = some (.story key) ∨
      ∃ d : TargetDescription, d.tag = spec.tag ∧
        (Registry.make spec d).run r.store = (.ok (.story key), settled.store) := by
  obtain ⟨-, r₁, hstore, hregistry, hresolve⟩ := run_settle_eq_ok h
  obtain ⟨registry, hprepare⟩ := resolve_spec_eq_ok hresolve
  rw [hstore, hregistry] at hprepare
  cases hentry : r.registry.entries.get? spec.tag with
  | none =>
    obtain ⟨format, entry, hkey, hmake⟩ := prepare_new_eq_ok hentry hprepare
    cases entry with
    | single => cases hkey
    | story key' =>
      cases hkey
      exact .inr ⟨_, rfl, hmake⟩
  | some entry =>
    have hfound := (prepare_known hentry).2 r.store (.story key, registry)
      (congrArg Prod.fst hprepare)
    cases entry with
    | single => cases congrArg Prod.fst hfound
    | story key' =>
      cases congrArg Prod.fst hfound
      exact .inl rfl

/-- However a draw settles, the stories that are there stay as they are. -/
theorem settle_keepsStory (bag : Params.Bag) (destination : Destination) (r : Renderer State) :
    Store.KeepsStory key r.store ((settle bag destination).run r).2.store :=
  (settle_moves Store.permits_keepsStory bag (fun _ _ => trivial) r rfl).2.1

/-! ### What a write is given, and what it binds -/

/-- A name that is not in the bag is not that of a uniform of the draw. -/
theorem get?_uniforms_ofBag (h : Plan.ofBag bag = .ok plan) {name : String}
    (hbag : bag.get? name = none) : plan.uniforms.get? name = none := by
  rw [Params.get?_split (Plan.ofBag_eq_ok h).1, hbag]
  split <;> rfl

/-- The source of a draw is looked up, and nothing else is done. -/
theorem withSource_state (resolved : Resolved) (uniforms : Uniform.Values) (r : Renderer State) :
    (withSource resolved uniforms r).2 = r := by
  unfold withSource
  rw [run_get_bind]
  cases resolved with
  | screen | texture => rfl
  | story key =>
    dsimp only
    rcases ((Resolved.story key).target? r.store).bind r.store.target? with - | t
    · rfl
    · dsimp only
      split <;> rfl

/-- Unless the caller gives one, the source is the current slot. -/
theorem withSource_story (hr : r.store.Owned) (hstory : r.store.story? key = some story)
    {uniforms : Uniform.Values} (hnone : uniforms.get? "Src" = none) :
    ∃ t, r.store.target? story.current = some t ∧
      (withSource (.story key) uniforms r).1.get? "Src" = some (.sampler t.sampler) := by
  have hcurrent : story.current ∈ story.slots := List.mem_cons_self
  obtain ⟨t, ht⟩ := hr.toWellFormed.exists_target (hr.slots key story hstory _ hcurrent)
  refine ⟨t, ht, ?_⟩
  have hcontains : uniforms.contains "Src" = false := by
    rw [Table.contains, hnone]
    rfl
  have htarget : (Resolved.target? (.story key) r.store).bind r.store.target? = some t := by
    rw [Resolved.target?, hstory, Option.map_some, Option.bind_some, ht]
  unfold withSource
  rw [run_get_bind]
  simp only [htarget, hcontains, Bool.false_eq_true, if_false]
  exact (Table.get?_insert ..).trans (if_pos rfl)

/-- Binding a story turns it and binds the slot that was the oldest. -/
theorem boundTarget?_bind {size : UInt32 × UInt32} (hr : r.store.Owned)
    (hstory : r.store.story? key = some story)
    (h : (bind (.story key)).run r = (.ok size, r')) :
    r'.store.boundTarget? = some story.writeSlot := by
  unfold bind at h
  have hturned : (r.store.rotate key).story? key = some story.rotate := by
    rw [Store.story?, Store.rotate, Table.get?_modify, if_pos rfl]
    exact congrArg (Option.map Story.rotate) hstory
  have hslot : Resolved.target? (.story key) (r.store.rotate key) = some story.writeSlot := by
    rw [Resolved.target?, hturned, Option.map_some, Story.current_rotate]
  rw [Attempt.run_bind_ok (Attempt.run_modify _ r), Attempt.run_bind_ok (Attempt.run_get _)] at h
  simp only [hslot] at h
  have howned : r'.store.Owned := by
    have hmoves : Attempt.Moves (Over r.geometry.buffer Store.Owning)
        (tryOnStore (Store.bindTarget story.writeSlot false)) :=
      bindSlot_moves Store.permits_owning.toBinding story.writeSlot
    exact (hmoves.of_run h rfl).2.1 (Store.rotate_owning r.store key hr)
  rw [run_tryOnStore] at h
  injection h with hok hstore
  subst hstore
  obtain ⟨id, hid, hbound⟩ := Store.run_bindTarget_ok (Prod.ext hok rfl)
  exact Store.boundTarget?_eq howned hid hbound

end Renderer

/-! ### Writes -/

/-- A draw that got as far as binding a slot of a story. -/
structure Write where
  bag : Params.Bag
  /-- The renderer when the draw had settled on the story. -/
  settled : Renderer State
  /-- What the program of the draw was given as `Src`. -/
  source : Option Uniform.Value
  /-- The target that was bound. -/
  bound : Option TargetKey

namespace Renderer

/-- The write of a draw that has settled on a story. -/
def writeInto (key : StoryKey) (bag : Params.Bag) (plan : Plan) (settled : Renderer State) :
    Write where
  bag := bag
  settled := settled
  source := (withSource (.story key) plan.uniforms settled).1.get? "Src"
  bound := ((bind (.story key)).run
    (withSource (.story key) plan.uniforms settled).2).2.store.boundTarget?

/-- What a draw writes to a story: nothing if it does not settle on the story, or only prepares
it. -/
def write? (key : StoryKey) (bag : Params.Bag) (destination : Destination)
    (r : Renderer State) : Option Write :=
  match (settle bag destination).run r with
  | (.ok (plan, _, resolved), settled) =>
    if resolved = .story key ∧ onlyPrepares plan destination = false then
      some (writeInto key bag plan settled)
    else none
  | (.error _, _) => none

end Renderer

/-- What an act writes to a story. -/
def Act.write? (key : StoryKey) (r : Renderer State) : Act → Option Write
  | draw bag destination => r.write? key bag destination
  | _ => none

/-- What several acts write to a story, the latest write first. -/
def Act.writes (key : StoryKey) (r : Renderer State) : List Act → List Write
  | [] => []
  | act :: acts => writes key (act.after r) acts ++ (act.write? key r).toList

/-- The story after a draw that may have written to it. -/
def Story.afterWrite (s : Story) : Option Write → Story
  | none => s
  | some _ => s.rotate

/-- The write went to the oldest slot of a story, and unless the caller gave a source, it was
given the current one. -/
structure Write.Turns (w : Write) (s : Story) : Prop where
  bound : w.bound = some s.writeSlot
  source : w.bag.get? "Src" = none →
    ∃ t, w.settled.store.target? s.current = some t ∧ w.source = some (.sampler t.sampler)

namespace Renderer

variable {r r' settled : Renderer State} {key : StoryKey} {story : Story} {bag : Params.Bag}
  {destination : Destination} {plan : Plan} {blend : Option Blend.State} {resolved : Resolved}

theorem write?_eq
    (hsettle : (settle bag destination).run r = (.ok (plan, blend, resolved), settled)) :
    r.write? key bag destination =
      if resolved = .story key ∧ onlyPrepares plan destination = false then
        some (writeInto key bag plan settled)
      else none := by
  unfold write?
  rw [hsettle]

/-- A story that could be painted has been written to. -/
theorem turns_writeInto (hr : settled.store.Owned) (hstory : settled.store.story? key = some story)
    (hplan : Plan.ofBag bag = .ok plan)
    (hpaint : (paint plan blend (.story key)).run settled = (.ok (), r')) :
    (writeInto key bag plan settled).Turns story where
  bound := by
    unfold paint at hpaint
    rw [Attempt.run_bind_ok (Attempt.run_lift _ settled), withSource_state] at hpaint
    obtain ⟨size, bound, hbind, -⟩ := Attempt.run_bind_eq_ok.1 hpaint
    rw [writeInto, withSource_state, hbind]
    exact boundTarget?_bind hr hstory hbind
  source hbag := withSource_story hr hstory (get?_uniforms_ofBag hplan hbag)

/-- A draw that settles on a story and goes through turns the story, unless it only prepares it. -/
theorem draw_settled_story (hr : settled.store.Owned)
    (hsettle : (settle bag destination).run r = (.ok (plan, blend, .story key), settled))
    (hstory : settled.store.story? key = some story)
    (hok : ∃ resolved, ((draw bag destination).run r).1 = .ok resolved) :
    ((draw bag destination).run r).2.store.story? key =
        some (story.afterWrite (r.write? key bag destination)) ∧
      ∀ w, r.write? key bag destination = some w → w.Turns story := by
  obtain ⟨resolved, hok⟩ := hok
  rw [draw_eq, Attempt.run_bind_ok hsettle] at hok ⊢
  rw [write?_eq hsettle]
  dsimp only at hok ⊢
  cases honly : onlyPrepares plan destination with
  | true =>
    simp only [if_true, Bool.true_eq_false, and_false, if_false]
    rw [Attempt.run_pure]
    exact ⟨hstory, fun w hw => by cases hw⟩
  | false =>
    rw [honly] at hok
    simp only [Bool.false_eq_true, if_false, and_self, if_true] at hok ⊢
    have hturned := stories_paint plan blend key settled
    rcases hpaint : (paint plan blend (.story key)).run settled with ⟨e | ⟨⟩, after⟩ <;>
      rw [hpaint] at hturned
    · rw [Attempt.run_bind_error hpaint] at hok
      cases hok
    rw [Attempt.run_bind_ok hpaint]
    constructor
    · refine (congrArg (fun stories => stories.get? key) hturned).trans ?_
      rw [Store.rotate, Table.get?_modify, if_pos rfl]
      exact congrArg (Option.map Story.rotate) hstory
    · intro w hw
      rw [← Option.some.inj hw]
      exact turns_writeInto hr hstory (run_settle_eq_ok hsettle).1 hpaint

/-- A draw leaves alone every story that it does not settle on. -/
theorem draw_other_story (hr : r.store.Owned) (hstory : r.store.story? key = some story)
    (hother : ∀ plan blend settled,
      (settle bag destination).run r ≠ (.ok (plan, blend, .story key), settled)) :
    ((draw bag destination).run r).2.store.story? key = some story ∧
      r.write? key bag destination = none := by
  have hsettled : Store.KeepsStory key r.store _ := settle_keepsStory bag destination r
  obtain ⟨hr', hkept⟩ := hsettled hr
  rw [draw_eq]
  unfold write?
  rcases hsettle : (settle bag destination).run r with ⟨e | ⟨plan, blend, resolved⟩, settled⟩ <;>
    rw [hsettle] at hkept hr'
  · rw [Attempt.run_bind_error hsettle]
    exact ⟨hkept story hstory, rfl⟩
  -- The draw may turn another story, and leaves this one alone in doing so.
  have hne : resolved ≠ .story key := by
    rintro rfl
    exact hother plan blend settled hsettle
  rw [Attempt.run_bind_ok hsettle]
  dsimp only
  refine ⟨?_, if_neg fun h => hne h.1⟩
  have hpaint :
      Store.KeepsStory key settled.store ((paint plan blend resolved).run settled).2.store := by
    refine (paint_moves Store.permits_keepsStory.toBinding
      (fun _ _ _ => Store.permitsReads_keepsStory.command _ rfl rfl rfl)
      (fun command hcommand _ s => Store.keepsStory_of_same (Store.command_owning command
        (command.keepsFrames_of_keepsObjects hcommand) s) rfl)
      (fun key' hkey s => Store.rotate_keepsStory
        (fun e => hne (hkey.trans (congrArg Resolved.story e))) s)
      plan blend settled rfl).2.1
  split
  · rw [Attempt.run_pure]
    exact hkept story hstory
  · rcases hrun : (paint plan blend resolved).run settled with ⟨e | ⟨⟩, after⟩ <;>
      rw [hrun] at hpaint
    · rw [Attempt.run_bind_error hrun]
      exact (hpaint hr').2 story (hkept story hstory)
    · rw [Attempt.run_bind_ok hrun]
      exact (hpaint hr').2 story (hkept story hstory)

end Renderer

/-! ### Runs -/

/-- The act does not turn the story, unless it is a draw, and a draw that settles on the story
goes through. -/
def Act.LeavesToDraws (key : StoryKey) (r : Renderer State) : Act → Prop
  | draw bag destination =>
    (∃ plan blend, ((Renderer.settle bag destination).run r).1 = .ok (plan, blend, .story key)) →
      ∃ resolved, ((Renderer.draw bag destination).run r).1 = .ok resolved
  | rotate key' => key' ≠ key
  | _ => True

/-- Throughout a run, draws into a story go through and nothing else turns it. -/
def Act.LeaveToDraws (key : StoryKey) (r : Renderer State) : List Act → Prop
  | [] => True
  | act :: acts => act.LeavesToDraws key r ∧ LeaveToDraws key (act.after r) acts

variable {r : Renderer State} {key : StoryKey} {story : Story}

/-- One act leaves a story as it is, or writes to it once. -/
theorem Act.story_after (hr : r.store.Owned) (hstory : r.store.story? key = some story) {act : Act}
    (hact : act.LeavesToDraws key r) :
    (act.after r).store.story? key = some (story.afterWrite (act.write? key r)) ∧
      ∀ w, act.write? key r = some w → w.Turns story := by
  -- Of the acts only a draw writes to a story, and only to the one that it settles on.
  by_cases hdraw : ∃ bag destination, act = .draw bag destination
  · obtain ⟨bag, destination, rfl⟩ := hdraw
    by_cases hsettles : ∃ plan blend settled, (Renderer.settle bag destination).run r =
        (.ok (plan, blend, .story key), settled)
    · obtain ⟨plan, blend, settled, hsettle⟩ := hsettles
      have hsettled : Store.KeepsStory key r.store _ := Renderer.settle_keepsStory bag destination r
      rw [hsettle] at hsettled
      obtain ⟨hr', hkept⟩ := hsettled hr
      exact Renderer.draw_settled_story hr' hsettle (hkept story hstory)
        (hact ⟨plan, blend, congrArg Prod.fst hsettle⟩)
    · have hother : ∀ plan blend settled, (Renderer.settle bag destination).run r ≠
          (.ok (plan, blend, .story key), settled) := fun plan blend settled h =>
        hsettles ⟨plan, blend, settled, h⟩
      obtain ⟨hkept, hnone⟩ := Renderer.draw_other_story hr hstory hother
      have hwrite : Act.write? key r (.draw bag destination) = none := hnone
      rw [hwrite]
      exact ⟨hkept, fun w hw => by cases hw⟩
  · have hkeeps : Store.KeepsStory key r.store (act.after r).store := by
      refine (Act.after_moves Store.permits_keepsStory (fun key' hkey s => ?_)
        (fun change _ s => Store.keepsStory_of_same (change.owning s) rfl)
        Store.permitsReads_keepsStory (fun bag destination h => hdraw ⟨bag, destination, h⟩)
        r rfl).2.1
      subst hkey
      exact Store.rotate_keepsStory hact s
    have hwrite : act.write? key r = none := by
      cases act with
      | draw bag destination => exact absurd ⟨bag, destination, rfl⟩ hdraw
      | _ => rfl
    rw [hwrite]
    exact ⟨(hkeeps hr).2 story hstory, fun w hw => by cases hw⟩

/-- The slot that stands in front before a write: the one that the write before it has bound, or
the one that was made first. -/
def Write.before (created : List TargetKey) : List Write → Option TargetKey
  | [] => created.head?
  | w :: _ => w.bound

/-- What a write is given as `Src`, unless the caller gave one, is the slot of the write before
it, which is not the slot that it writes if there are two. -/
def Write.FollowsOn (w : Write) (created : List TargetKey) (earlier : List Write) : Prop :=
  w.bag.get? "Src" = none → ∃ slot t, Write.before created earlier = some slot ∧
    w.settled.store.target? slot = some t ∧ w.source = some (.sampler t.sampler) ∧
    (2 ≤ created.length → w.bound ≠ some slot)

/-- A story tells of these writes, the latest first, behind which stand the slots as they were
made. -/
structure Story.Tells (s : Story) (created : List TargetKey) (writes : List Write) : Prop where
  perm : s.slots.Perm created
  slots : s.slots.map some = (writes.map Write.bound ++ created.map some).take created.length
  follows : ∀ later w earlier, writes = later ++ w :: earlier → w.FollowsOn created earlier

namespace Story

variable {s : Story} {created : List TargetKey} {writes : List Write}

/-- The oldest slot is the current one only if there are no others. -/
theorem writeSlot_ne_current (h : s.slots.Nodup) (htwo : 2 ≤ s.size) :
    s.writeSlot ≠ s.current := by
  obtain ⟨current, earlier⟩ := s
  cases earlier with
  | nil => exact absurd htwo (by simp [size, slots])
  | cons e es =>
    have hlast : (⟨current, e :: es⟩ : Story).writeSlot = (e :: es).getLast (by simp) := by
      simp [writeSlot, List.getLastD_eq_getLast?, List.getLast?_eq_some_getLast]
    intro heq
    rw [hlast] at heq
    exact (List.nodup_cons.1 h).1 (heq ▸ List.getLast_mem _)

/-- A story that has just been made. -/
theorem tells_slots (s : Story) : s.Tells s.slots [] where
  perm := .refl _
  slots := by rw [List.map_nil, List.nil_append, ← List.length_map some, List.take_length]
  follows later w earlier h := by simp at h

theorem Tells.length (h : s.Tells created writes) : created.length = s.earlier.length + 1 :=
  h.perm.length_eq.symm

/-- The slot of a write stands as far back as there are later writes. -/
theorem Tells.getElem? (h : s.Tells created writes) {i : Nat} {w : Write}
    (hi : i < created.length) (hw : writes[i]? = some w) :
    s.slots[i]? = w.bound ∧ w.bound.isSome := by
  have hslot : (s.slots.map some)[i]? = some w.bound := by
    obtain ⟨hlt, hget⟩ := List.getElem?_eq_some_iff.1 hw
    rw [h.slots, List.getElem?_take_of_lt hi, List.getElem?_append_left (by simpa using hlt),
      List.getElem?_map, hw, Option.map_some]
  rw [List.getElem?_map] at hslot
  obtain ⟨slot, hget, hbound⟩ := Option.map_eq_some_iff.1 hslot
  rw [hget, ← hbound]
  exact ⟨rfl, rfl⟩

/-- The current slot is the one of the last write. -/
theorem Tells.current (h : s.Tells created writes) :
    Write.before created writes = some s.current := by
  have hslots := h.slots
  rw [h.length] at hslots
  cases writes with
  | nil =>
    cases created with
    | nil => cases h.length
    | cons slot created =>
      simp only [Story.slots, List.map_nil, List.nil_append, List.map_cons, List.take_succ_cons,
        List.cons.injEq] at hslots
      exact hslots.1.symm
  | cons w writes =>
    simp only [Story.slots, List.map_cons, List.cons_append, List.take_succ_cons,
      List.cons.injEq] at hslots
    exact hslots.1.symm

/-- A write turns the story, and the story tells of it. -/
theorem Tells.write (h : s.Tells created writes) (hdistinct : created.Nodup) {w : Write}
    (hw : w.Turns s) : s.rotate.Tells created (w :: writes) where
  perm := s.rotate_perm.trans h.perm
  slots := by
    have hlast : s.slots.dropLast.map some =
        (writes.map Write.bound ++ created.map some).take s.earlier.length := by
      rw [List.map_dropLast, h.slots, List.dropLast_eq_take, List.take_take, List.length_take,
        List.length_append, List.length_map, List.length_map, h.length]
      congr 1
      omega
    rw [slots_rotate, List.map_cons, hlast, h.length, List.map_cons, List.cons_append,
      List.take_succ_cons, hw.bound]
  follows later w' earlier heq := by
    cases later with
    | cons w'' later =>
      obtain ⟨-, heq⟩ := List.cons.inj heq
      exact h.follows later w' earlier heq
    | nil =>
      obtain ⟨rfl, rfl⟩ := List.cons.inj heq
      intro hbag
      obtain ⟨t, ht, hsource⟩ := hw.source hbag
      refine ⟨s.current, t, h.current, ht, hsource, fun htwo hbound => ?_⟩
      rw [hw.bound] at hbound
      refine writeSlot_ne_current (h.perm.nodup_iff.2 hdistinct) ?_ (Option.some.inj hbound)
      rw [size, length_slots, ← h.length]
      exact htwo

end Story

/-- What a run writes to a story adds to what the story tells of. -/
theorem Act.tells_afterAll {created : List TargetKey} (hdistinct : created.Nodup)
    {acts : List Act} : ∀ {r : Renderer State} {story : Story} {writes : List Write},
    r.store.Owned → r.store.story? key = some story → story.Tells created writes →
    Act.LeaveToDraws key r acts →
    ∃ story', (Act.afterAll r acts).store.story? key = some story' ∧
      story'.Tells created (Act.writes key r acts ++ writes) := by
  induction acts with
  | nil => exact fun _ hstory htells _ => ⟨_, hstory, htells⟩
  | cons act acts ih =>
    intro r story writes hr hstory htells hacts
    obtain ⟨hafter, hturns⟩ := Act.story_after hr hstory hacts.1
    have hnext : (story.afterWrite (act.write? key r)).Tells created
        ((act.write? key r).toList ++ writes) := by
      cases hwrite : act.write? key r with
      | none => exact htells
      | some w => exact htells.write hdistinct (hturns w hwrite)
    obtain ⟨story', hstory', htells'⟩ := ih (act.after_owning r hr) hafter hnext hacts.2
    refine ⟨story', hstory', ?_⟩
    rw [Act.writes, List.append_assoc]
    exact htells'

/-! ### The draw that makes a story -/

namespace Renderer

variable {r r' settled : Renderer State} {key : StoryKey} {story : Story} {bag : Params.Bag}
  {destination : Destination} {plan : Plan} {blend : Option Blend.State} {resolved : Resolved}
  {spec : TargetSpec}

/-- The draw makes the story that it draws into. -/
structure MakesStory (r : Renderer State) (bag : Params.Bag) (spec : TargetSpec)
    (key : StoryKey) : Prop where
  new : r.store.story? key = none
  there : (((draw bag (.spec spec)).run r).2.store.story? key).isSome
  answer : ((draw bag (.spec spec)).run r).1 = .ok (.story key)

/-- A draw answers what it has settled on. -/
theorem draw_answer (h : ((draw bag destination).run r).1 = .ok resolved) :
    ∃ plan blend settled, (settle bag destination).run r = (.ok (plan, blend, resolved), settled) := by
  rw [draw_eq] at h
  rcases hsettle : (settle bag destination).run r with ⟨e | ⟨plan, blend, resolved'⟩, settled⟩
  · rw [Attempt.run_bind_error hsettle] at h
    cases h
  rw [Attempt.run_bind_ok hsettle] at h
  refine ⟨plan, blend, settled, ?_⟩
  suffices heq : resolved' = resolved by rw [heq]
  dsimp only at h
  split at h
  · cases h
    rfl
  · rcases hpaint : (paint plan blend resolved').run settled with ⟨e | ⟨⟩, after⟩
    · rw [Attempt.run_bind_error hpaint] at h
      cases h
    · rw [Attempt.run_bind_ok hpaint] at h
      cases h
      rfl

/-- A draw that goes through is a write to what it answers, unless it only prepares it. -/
theorem isSome_write? (h : ((draw bag destination).run r).1 = .ok resolved)
    (hplan : Plan.ofBag bag = .ok plan) : (r.write? key bag destination).isSome ↔
      resolved = .story key ∧ onlyPrepares plan destination = false := by
  obtain ⟨plan', blend, settled, hsettle⟩ := draw_answer h
  cases hplan.symm.trans (run_settle_eq_ok hsettle).1
  rw [write?_eq hsettle]
  split
  · exact iff_of_true rfl ‹_›
  · exact iff_of_false nofun ‹_›

/-- A draw makes no story unless it settles on one that was not there. -/
theorem story?_draw_eq_none
    (hsettle : (settle bag destination).run r = (.ok (plan, blend, .story key), settled))
    (hnone : settled.store.story? key = none) :
    ((draw bag destination).run r).2.store.story? key = none := by
  rw [draw_eq, Attempt.run_bind_ok hsettle]
  dsimp only
  split
  · rw [Attempt.run_pure]
    exact hnone
  · have hturned := stories_paint plan blend key settled
    have hstill : ((paint plan blend (.story key)).run settled).2.store.story? key = none := by
      rw [Store.story?, hturned, Store.rotate, Table.get?_modify, if_pos rfl]
      exact congrArg (Option.map Story.rotate) hnone
    rcases hpaint : (paint plan blend (.story key)).run settled with ⟨e | ⟨⟩, after⟩ <;>
      rw [hpaint] at hstill
    · rwa [Attempt.run_bind_error hpaint]
    · rwa [Attempt.run_bind_ok hpaint]

/-- The story that a draw makes has new slots of the tag of its spec, and the draw has settled on
it. -/
theorem MakesStory.exists_first (hmakes : MakesStory r bag spec key) (hr : r.store.Owned) :
    ∃ plan blend settled first,
      (settle bag (.spec spec)).run r = (.ok (plan, blend, .story key), settled) ∧
      settled.store.story? key = some first ∧ spec.story = some first.size ∧
      Store.NewSlots r.store settled.store spec.tag first.slots := by
  obtain ⟨plan, blend, settled, hsettle⟩ := draw_answer hmakes.answer
  rcases settle_story_cases hsettle with hentry | ⟨d, htag, hmake⟩
  -- The story of a known tag would have been there before the draw.
  · have hkey : (Destination.spec spec).story? r = some key := by
      unfold Destination.story?
      dsimp only
      rw [hentry]
    obtain ⟨hsame, -⟩ := settle_story bag hkey
    rw [hsettle] at hsame
    have hnone : settled.store.story? key = none := by
      rw [Store.story?, hsame]
      exact hmakes.new
    have hthere := hmakes.there
    rw [story?_draw_eq_none hsettle hnone] at hthere
    cases hthere
  · obtain ⟨first, s₁, hstore, rfl, hslots, hspec⟩ := Store.run_make_story hr.toWellFormed hmake
    refine ⟨plan, blend, settled, first, hsettle, ?_, hspec, ?_⟩
    · rw [hstore]
      exact (Table.get?_insert ..).trans (if_pos rfl)
    · obtain ⟨hdistinct, hfresh, htagged⟩ := Store.mapM_create_new hr.toWellFormed hslots
      refine ⟨hdistinct, hfresh, fun slot hslot => ?_⟩
      obtain ⟨t, ht, htag'⟩ := htagged slot hslot
      exact ⟨t, by rw [hstore]; exact ht, htag'.trans htag⟩

/-- The rest of a draw leaves the tags of the targets as they are. -/
theorem draw_keepsTextures
    (hsettle : (settle bag destination).run r = (.ok (plan, blend, resolved), settled)) :
    Store.KeepsTextures settled.store ((draw bag destination).run r).2.store := by
  have hpaint : Store.KeepsTextures settled.store
      ((paint plan blend resolved).run settled).2.store := by
    have hcommand {α : Type} (command : Command α) (s : Store State) :
        Store.KeepsTextures s (perform command s).2 := Store.keepsTextures_of_eq
      (fun h => ⟨h.of_eq (State.numbered_perform command h.numbered) rfl rfl, Nat.le_refl _⟩) rfl
    exact (paint_moves Store.permits_keepsTextures.toBinding (fun _ _ _ => hcommand _)
      (fun command _ _ => hcommand command) (fun key' _ s => Store.rotate_keepsTextures s key')
      plan blend settled rfl).2.1
  rw [draw_eq, Attempt.run_bind_ok hsettle]
  dsimp only
  split
  · rw [Attempt.run_pure]
    exact refl settled.store
  · rcases hrun : (paint plan blend resolved).run settled with ⟨e | ⟨⟩, after⟩ <;>
      rw [hrun] at hpaint
    · rwa [Attempt.run_bind_error hrun]
    · rwa [Attempt.run_bind_ok hrun]

/-- A draw that has nothing to do but to prepare the target of a spec leaves every story as it
is. -/
theorem draw_noop_keepsStory (hplan : Plan.ofBag bag = .ok plan)
    (hnoop : plan.options.isNoop = true) :
    Store.KeepsStory key r.store ((draw bag (.spec spec)).run r).2.store := by
  have hsettled : Store.KeepsStory key r.store _ := settle_keepsStory bag (.spec spec) r
  rw [draw_eq]
  rcases hsettle : (settle bag (.spec spec)).run r with ⟨e | ⟨plan', blend, resolved⟩, settled⟩ <;>
    rw [hsettle] at hsettled
  · rwa [Attempt.run_bind_error hsettle]
  · cases hplan.symm.trans (run_settle_eq_ok hsettle).1
    have honly : onlyPrepares plan (.spec spec) = true := hnoop
    rw [Attempt.run_bind_ok hsettle]
    dsimp only
    rw [if_pos honly, Attempt.run_pure]
    exact hsettled

end Renderer

/-! ### The history of a story -/

end DrawPass
