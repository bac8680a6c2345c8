/-
DrawPass/Proofs/StoryOrder.lean

What a refused draw does to the order of a story.

A draw first settles on its target: it reads the bag and the blend spec, and finds or
makes the target.  Only then does it bind, and binding turns the story round before
anything else.  A draw that is refused while it settles therefore leaves the story as
it was, and one that is refused later, because the slot has been freed, no framebuffer
can be made or the program is not to be had, leaves it turned by one
(`refused_draw_story`): the slot that was to be written has become the current one
although nothing was written to it.  For a story of one slot there is no difference.

No stage but the binding touches stories, which is an instance of the walk through the
stages for the relation `SameStories`.
-/
import DrawPass.Proofs.WellFormed

namespace DrawPass

open Gl Software

/-! ### Turning -/

namespace Story

/-- Turning a story with distinct slots changes their order, unless there is only one. -/
theorem slots_rotate_eq_iff {s : Story} (h : s.slots.Nodup) :
    s.rotate.slots = s.slots ↔ s.size = 1 := by
  obtain ⟨current, earlier⟩ := s
  rcases earlier with - | ⟨e, es⟩
  · exact iff_of_true rfl rfl
  · refine iff_of_false (fun heq => ?_) (by simp [size, slots])
    have hcurrent : (e :: es).getLast (by simp) = current := (List.cons.inj heq).1
    refine (List.nodup_cons.1 h).1 ?_
    change current ∈ e :: es
    rw [← hcurrent]
    exact List.getLast_mem _

end Story

/-! ### Stages that leave stories alone -/

namespace Renderer

/-- The stories are as they were. -/
def SameStories (s s' : Store State) : Prop := s'.stories = s.stories

instance : IsPreorder (Store State) SameStories where
  refl _ := rfl
  trans _ _ _ h h' := h'.trans h

theorem permitsParts_sameStories : Store.PermitsParts SameStories where
  command _ _ _ := rfl
  modifyTarget _ _ _ _ := rfl
  addTarget _ _ _ := rfl
  reads _ _ _ _ h := h

/-- Nothing is made here, since a story that is drawn into is there before the draw. -/
theorem permits_sameStories : Store.Permits SameStories fun _ => False :=
  permitsParts_sameStories.permits fun _ _ _ _ h => h.elim

/-- A spec of a known tag finds what the tag stands for. -/
theorem prepare_known {registry : Registry} {spec : TargetSpec} {entry : Entry}
    (hentry : registry.entries.get? spec.tag = some entry) :
    Attempt.Gives SameStories (fun result => result = (entry.resolved, registry))
      (registry.prepare spec : Attempt DrawError (Store State) (Resolved × Registry)) := by
  unfold Registry.prepare
  rw [hentry]
  dsimp only
  split
  · exact .throw_bind _ _
  · refine .after (.ofExcept _) fun format => ?_
    refine .after (permitsParts_sameStories.perform _ rfl) fun _ => ?_
    refine .after (.ofExcept _) fun _ => ?_
    refine .after (Store.refresh_moves (Store.update_moves ?_) _ _ _) fun _ => .pure rfl
    exact permits_sameStories.toPermitsContents

end Renderer

/-- The story that a draw goes into, if it goes into one that is there. -/
def Destination.story? (destination : Destination) (r : Renderer State) : Option StoryKey :=
  match destination with
  | .story key => some key
  | .spec s =>
    match r.registry.entries.get? s.tag with
    | some (.story key) => some key
    | _ => none
  | _ => none

namespace Renderer

/-- Finding a story leaves it as it is. -/
theorem resolve_story {destination : Destination} {r : Renderer State} {key : StoryKey}
    (hkey : destination.story? r = some key) :
    SameStories r.store ((resolve destination).run r).2.store ∧
      ∀ resolved, ((resolve destination).run r).1 = .ok resolved → resolved = .story key := by
  cases destination with
  | screen | texture => cases hkey
  | story key' =>
    cases hkey
    refine ⟨rfl, fun resolved h => ?_⟩
    cases h
    rfl
  | spec spec =>
    -- The tag is known, so its targets are refreshed and the story is not made anew.
    have hentry : r.registry.entries.get? spec.tag = some (.story key) := by
      unfold Destination.story? at hkey
      dsimp only at hkey
      split at hkey
      · rename_i hentry
        cases hkey
        exact hentry
      · cases hkey
    have hrun (act : Attempt DrawError (Renderer State) Resolved)
        (h : act.Gives (Over r.geometry.buffer SameStories) fun resolved => resolved = .story key) :
        SameStories r.store (act.run r).2.store ∧
          ∀ resolved, (act.run r).1 = .ok resolved → resolved = .story key :=
      ⟨(h.1 r rfl).2.1, h.2 r⟩
    unfold resolve
    rw [Attempt.run_bind_ok (Attempt.run_get r)]
    obtain ⟨hmoves, hgives⟩ := prepare_known hentry
    refine hrun _ (.bind ⟨tryOnStore_moves hmoves, fun r => hgives r.store⟩ ?_)
    rintro _ rfl
    exact .after (.modify fun r => along_of_eq rfl rfl id) fun _ => .pure rfl

theorem blendState_same (spec : Option String) (r : Renderer State) :
    ((blendState spec).run r).2.store = r.store ∧
      ((blendState spec).run r).2.registry = r.registry := by
  unfold blendState
  split
  · exact ⟨rfl, rfl⟩
  · rw [Attempt.run_bind_ok (Attempt.run_get r), Attempt.run_bind_ok (Attempt.run_modify _ r)]
    split <;> exact ⟨rfl, rfl⟩

/-- Settling on a story leaves it as it is. -/
theorem settle_story (bag : Params.Bag) {destination : Destination} {r : Renderer State}
    {key : StoryKey} (hkey : destination.story? r = some key) :
    SameStories r.store ((settle bag destination).run r).2.store ∧
      ∀ result, ((settle bag destination).run r).1 = .ok result → result.2.2 = .story key := by
  unfold settle
  have hbag : (liftM (Plan.ofBag bag) : Attempt DrawError (Renderer State) Plan).run r =
      (Plan.ofBag bag, r) := Attempt.run_ofExcept _ r
  rcases hplan : Plan.ofBag bag with e | plan <;> rw [hplan] at hbag
  · rw [Attempt.run_bind_error hbag]
    exact ⟨rfl, fun _ h => by cases h⟩
  rw [Attempt.run_bind_ok hbag]
  obtain ⟨hstore, hregistry⟩ := blendState_same plan.options.blend r
  rcases hblend : (blendState plan.options.blend).run r with ⟨e | blend, r₁⟩ <;>
    rw [hblend] at hstore hregistry
  · rw [Attempt.run_bind_error hblend]
    exact ⟨congrArg Store.stories hstore, fun _ h => by cases h⟩
  rw [Attempt.run_bind_ok hblend]
  -- Reading the blend spec changes neither the store nor the tags.
  have hkey₁ : destination.story? r₁ = some key := by
    unfold Destination.story? at hkey ⊢
    rwa [hregistry]
  obtain ⟨hstories, hresolved⟩ := resolve_story hkey₁
  have hsame : SameStories r.store r₁.store := congrArg Store.stories hstore
  rcases hresolve : (resolve destination).run r₁ with ⟨e | resolved, r₂⟩ <;>
    rw [hresolve] at hstories hresolved
  · rw [Attempt.run_bind_error hresolve]
    exact ⟨hstories.trans hsame, fun _ h => by cases h⟩
  · rw [Attempt.run_bind_ok hresolve]
    refine ⟨hstories.trans hsame, fun result h => ?_⟩
    cases h
    exact hresolved resolved rfl

/-- Painting a story turns it once, whether or not it is refused. -/
theorem stories_paint (plan : Plan) (blend : Option Blend.State) (key : StoryKey)
    (r : Renderer State) :
    ((paint plan blend (.story key)).run r).2.store.stories = (r.store.rotate key).stories := by
  have hrender (uniforms : Uniform.Values) (size : UInt32 × UInt32) (buffer : Name) :
      Attempt.Moves (Over buffer SameStories) (render plan blend uniforms size) := by
    refine render_moves permits_sameStories.toBinding ?_ ?_ plan blend uniforms size
    · exact fun _ _ _ _ => rfl
    · exact fun _ _ _ _ => rfl
  have hsource := withSource_moves (R := SameStories) (.story key) plan.uniforms r rfl
  have hsame : (withSource (.story key) plan.uniforms r).2.store.stories = r.store.stories :=
    hsource.2.1
  unfold paint
  rw [Attempt.run_bind_ok (Attempt.run_lift _ r)]
  unfold bind
  simp only [bind_assoc]
  rw [Attempt.run_bind_ok (Attempt.run_modify _ _), Attempt.run_bind_ok (Attempt.run_get _)]
  refine Eq.trans (b := ((withSource (.story key) plan.uniforms r).2.store.rotate key).stories) ?_ ?_
  -- What comes after the turning leaves the stories alone, whichever slot it goes to.
  · rcases Resolved.target? _ _ with - | slot
    · rfl
    · exact (Attempt.Moves.bind (bindSlot_moves permits_sameStories.toBinding slot)
        (fun size => hrender _ size _) _ rfl).2.1
  · exact congrArg (fun stories => stories.modify key Story.rotate) hsame

/-- The draw is not refused before it has settled on its target. -/
def Settles (bag : Params.Bag) (destination : Destination) (r : Renderer State) : Prop :=
  ∃ result, ((settle bag destination).run r).1 = .ok result

/-- A refused draw has turned the story if it had settled on it, and only then. -/
theorem story_refused {bag : Params.Bag} {destination : Destination} {r r' : Renderer State}
    {key : StoryKey} {story : Story} {e : DrawError} (hkey : destination.story? r = some key)
    (hstory : r.store.story? key = some story)
    (hdraw : (draw bag destination).run r = (.error e, r')) :
    (Settles bag destination r → r'.store.story? key = some story.rotate) ∧
      (¬ Settles bag destination r → r'.store.story? key = some story) := by
  obtain ⟨hstories, hresolved⟩ := settle_story bag hkey
  rw [draw_eq] at hdraw
  unfold Settles
  rcases hsettle : (settle bag destination).run r with ⟨e' | ⟨plan, blend, resolved⟩, r₁⟩ <;>
    rw [hsettle] at hstories hresolved
  · rw [Attempt.run_bind_error hsettle] at hdraw
    cases hdraw
    refine ⟨fun ⟨_, h⟩ => (by cases h), fun _ => ?_⟩
    rw [Store.story?, hstories]
    exact hstory
  · rw [Attempt.run_bind_ok hsettle] at hdraw
    refine ⟨fun _ => ?_, fun h => absurd ⟨_, rfl⟩ h⟩
    cases hresolved _ rfl
    have hturned := stories_paint plan blend key r₁
    dsimp only at hdraw
    -- A draw that only prepares its target is not refused from here on.
    split at hdraw
    · cases hdraw
    · rcases hpaint : (paint plan blend (.story key)).run r₁ with ⟨e' | _, r₂⟩ <;>
        rw [hpaint] at hturned
      · rw [Attempt.run_bind_error hpaint] at hdraw
        cases hdraw
        rw [Store.story?, hturned, Store.rotate, Table.get?_modify, if_pos rfl, hstories]
        exact congrArg (Option.map Story.rotate) hstory
      · rw [Attempt.run_bind_ok hpaint] at hdraw
        cases hdraw

end Renderer

/-- The exact effect of a refused draw on the order of its story: the order is kept if the story
has a single slot or the draw was refused before it had settled on its target, and otherwise the
story is turned by one. -/
theorem refused_draw_story {r r' : Renderer State} (hr : Reachable r) {bag : Params.Bag}
    {destination : Destination} {key : StoryKey} {story : Story} {e : DrawError}
    (hkey : destination.story? r = some key) (hstory : r.store.story? key = some story)
    (hdraw : (Renderer.draw bag destination).run r = (.error e, r')) :
    ∃ story', r'.store.story? key = some story' ∧
      (story'.slots = story.slots ↔
        story.size = 1 ∨ ¬ Renderer.Settles bag destination r) ∧
      (Renderer.Settles bag destination r → story' = story.rotate) := by
  have hdistinct := hr.wellFormed.distinctSlots key story hstory
  obtain ⟨hturned, hkept⟩ := Renderer.story_refused hkey hstory hdraw
  by_cases hsettles : Renderer.Settles bag destination r
  · refine ⟨story.rotate, hturned hsettles, ?_, fun _ => rfl⟩
    rw [Story.slots_rotate_eq_iff hdistinct]
    exact ⟨.inl, fun h => h.resolve_right fun hnot => hnot hsettles⟩
  · exact ⟨story, hkept hsettles, iff_of_true rfl (.inr hsettles), fun h => absurd h hsettles⟩

/-- A story of two slots, drawn into when no framebuffer can be made. -/
theorem refused_draw_story_of_two :
    ∃ r r' : Renderer State, ∃ story story' : Story, Reachable r ∧
      r.store.story? ⟨0⟩ = some story ∧ r'.store.story? ⟨0⟩ = some story' ∧
      (∃ e, (Renderer.draw .empty (.story ⟨0⟩)).run r = (.error e, r')) ∧
      story'.slots ≠ story.slots := by
  have hr := ReachableBy.onePixel
    [.draw .empty (.spec { tag := "s", story := some 2 }), .control .failNextFramebuffer]
  have hstory : (Act.afterAll Renderer.onePixel
      [.draw .empty (.spec { tag := "s", story := some 2 }),
        .control .failNextFramebuffer]).store.story? ⟨0⟩ = some ⟨⟨0⟩, [⟨1⟩]⟩ := by
    decide +kernel
  generalize hacts : Act.afterAll Renderer.onePixel
    [.draw .empty (.spec { tag := "s", story := some 2 }), .control .failNextFramebuffer] = r at *
  obtain ⟨e, r', hdraw⟩ : ∃ e r', (Renderer.draw .empty (.story ⟨0⟩)).run r = (.error e, r') := by
    refine Attempt.exists_run_eq_error ?_
    rw [← hacts]
    decide +kernel
  obtain ⟨story', hstory', hiff, -⟩ := refused_draw_story hr rfl hstory hdraw
  refine ⟨r, r', _, story', hr, hstory, hstory', ⟨e, hdraw⟩, fun heq => ?_⟩
  rcases hiff.1 heq with hsize | hsettles
  · exact absurd hsize (by decide)
  · refine hsettles ?_
    have hsome : ((Renderer.settle .empty (.story ⟨0⟩)).run r).1.toOption.isSome := by
      rw [← hacts]
      decide +kernel
    obtain ⟨result, hresult⟩ := Option.isSome_iff_exists.1 hsome
    rcases h : ((Renderer.settle .empty (.story ⟨0⟩)).run r).1 with e | result' <;> rw [h] at hresult
    · cases hresult
    · exact ⟨result', h⟩

end DrawPass
