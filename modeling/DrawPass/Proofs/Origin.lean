/-
DrawPass/Proofs/Origin.lean

Where targets come from.

Only a draw with a spec of a new tag makes targets, and what they are is said by the spec,
apart from their size (`Renderer.MakesTarget.origin`).  A draw makes companions beside the
targets of its spec; the two are told apart by their tags.
-/
import DrawPass.Proofs.Making
import DrawPass.Proofs.Tags

namespace DrawPass

open Gl Software

/-- The body is that of a target which has just been made from a description. -/
structure Body.ComesFrom (b : Body) (d : TargetDescription) : Prop where
  size : b.size = d.size
  format : b.texture.format = d.format
  layers : b.layers = d.layers
  owned : d.ownsCompanion = true → ∃ own, b.companion = .owned own
  lent : d.ownsCompanion = false → b.companion = d.lent

namespace Store

variable {s s' : Store State} {d : TargetDescription} {key : TargetKey} {b : Body}

/-- What was there is as it was, and new targets with the tag of a description come from it. -/
structure Yields (d : TargetDescription) (s s' : Store State) : Prop where
  kept : ∀ key b, s.body? key = some b → s'.body? key = some b
  new : ∀ key b, s.body? key = none → s'.body? key = some b → b.texture.tag = d.tag →
    b.ComesFrom d

instance : IsPreorder (Store State) (Yields d) where
  refl _ := ⟨fun _ _ hb => hb, fun _ _ hnone hb => by rw [hnone] at hb; cases hb⟩
  trans s s₁ s₂ h h' := by
    refine ⟨fun key b hb => h'.kept key b (h.kept key b hb), fun key b hnone hb htag => ?_⟩
    rcases hfirst : s₁.body? key with _ | b₁
    · exact h'.new key b hfirst hb htag
    · cases (h'.kept key b₁ hfirst).symm.trans hb
      exact h.new key b hnone hfirst htag

theorem yields_of_body (h : s'.body? = s.body?) : Yields d s s' :=
  ⟨fun _ _ hb => h ▸ hb, fun _ _ hnone hb => by rw [h, hnone] at hb; cases hb⟩

/-- A target that has been made around its texture. -/
theorem Planted.yields {d' : TargetDescription} {companion : Companion}
    (hnew : Planted d' companion s s') (hs : s.WellFormed)
    (hfrom : d'.tag = d.tag →
      (d'.body s.nextTarget (s.device.lastName + 1) companion).ComesFrom d) : Yields d s s' := by
  refine ⟨fun key b hb => hnew.kept hs hb, fun key b hnone hb htag => ?_⟩
  rw [hnew.body] at hb
  split at hb
  · cases hb
    exact hfrom htag
  · rw [hnone] at hb
    cases hb

/-- A tag is not that of the companion. -/
theorem tag_companion_ne (d : TargetDescription) : d.companion.tag ≠ d.tag := by
  intro h
  have hlength := congrArg String.length h
  have hsuffix : "_depth".length = 6 := rfl
  change (d.tag ++ "_depth").length = _ at hlength
  rw [String.length_append] at hlength
  omega

/-- Whether or not a target can be made, what is new comes from its description. -/
theorem create_yields {result : Except DrawError TargetKey} (hs : s.Owned)
    (hrun : (create d).run s = (result, s')) :
    Yields d s s' ∧ ∀ key, result = .ok key → ∃ b, s'.body? key = some b ∧ b.ComesFrom d := by
  have hcompanion {s₁ : Store State} (hfirst : Planted d.companion .none s s₁) : Yields d s s₁ :=
    hfirst.yields hs.toWellFormed fun htag => absurd htag (tag_companion_ne d)
  cases create_made hs hrun with
  | refused hsteady => exact ⟨yields_of_body hsteady.body, nofun⟩
  | alone hown hnew =>
    have hfrom : (d.body s.nextTarget (s.device.lastName + 1) d.lent).ComesFrom d :=
      ⟨rfl, rfl, rfl, fun h => absurd (hown.symm.trans h) Bool.false_ne_true, fun _ => rfl⟩
    refine ⟨hnew.yields hs.toWellFormed fun _ => hfrom, fun key hkey => ?_⟩
    cases hkey
    exact ⟨_, (hnew.body _).trans (if_pos rfl), hfrom⟩
  | @paired s₁ hown hfirst hs₁ hnew =>
    have hfrom : (d.body s₁.nextTarget (s₁.device.lastName + 1) (.owned s.nextTarget)).ComesFrom d :=
      ⟨rfl, rfl, rfl, fun _ => ⟨_, rfl⟩, fun h => absurd (h.symm.trans hown) Bool.false_ne_true⟩
    refine ⟨IsTrans.trans _ _ _ (hcompanion hfirst) (hnew.yields hs₁.toWellFormed fun _ => hfrom),
      fun key hkey => ?_⟩
    cases hkey
    exact ⟨_, (hnew.body _).trans (if_pos rfl), hfrom⟩
  | undone _ hfirst _ hc hend =>
    have hyields := hcompanion hfirst
    refine ⟨⟨fun key b hb => ?_, fun key b hnone hb htag => ?_⟩, nofun⟩ <;>
      have hbody := hend.body? hc key
    · rw [hbody, if_neg, hyields.kept key b hb]
      rintro rfl
      rw [hs.body?_nextTarget] at hb
      cases hb
    · -- The companion that has been freed again has the tag of a companion.
      rw [hbody, hfirst.body] at hb
      split at hb
      · cases hb
        exact absurd htag (tag_companion_ne d)
      · rw [hnone] at hb
        cases hb

/-- Targets made one after the other. -/
theorem mapM_create_yields {n : Nat} {result : Except DrawError (List TargetKey)} (hs : s.Owned)
    (hrun : ((List.replicate n d).mapM create).run s = (result, s')) :
    Yields d s s' ∧ ∀ keys, result = .ok keys → ∀ key ∈ keys,
      ∃ b, s'.body? key = some b ∧ b.ComesFrom d := by
  obtain ⟨⟨-, -, hyields, -⟩, hmade⟩ := mapM_create_rule (d := d)
    (P := fun s₁ keys => s₁.Owned ∧ Yields d s s₁ ∧
      ∀ key ∈ keys, ∃ b, s₁.body? key = some b ∧ b.ComesFrom d)
    (fun s₁ s₂ keys result ⟨hs₁, hyields, hkeys⟩ hrun => by
      obtain ⟨hyields', hnew⟩ := create_yields hs₁ hrun
      have hs₂ := (create_owning d).of_run hrun hs₁
      have hkeys' (key : TargetKey) (hkey : key ∈ keys) :
          ∃ b, s₂.body? key = some b ∧ b.ComesFrom d := by
        obtain ⟨b, hb, hfrom⟩ := hkeys key hkey
        exact ⟨b, hyields'.kept key b hb, hfrom⟩
      refine ⟨fun _ _ => ⟨hs₂, IsTrans.trans _ _ _ hyields hyields', hkeys'⟩,
        fun key hkey => ⟨hs₂, IsTrans.trans _ _ _ hyields hyields', ?_⟩⟩
      simpa using fun key' hkey' => hkey'.elim (hkeys' key') fun e => e ▸ hnew key hkey)
    [] ⟨hs, refl s, nofun⟩ hrun
  exact ⟨hyields, fun keys hkeys => (hmade keys hkeys).2.2⟩

/-- What the next draw to a new entry goes to comes from the description of the entry. -/
theorem make_yields {spec : TargetSpec} {result : Except DrawError Entry} (hs : s.Owned)
    (hrun : (Registry.make spec d).run s = (result, s')) :
    Yields d s s' ∧ ∀ entry, result = .ok entry →
      ∃ key b, Registry.writeSlot? s' entry = some key ∧ s'.body? key = some b ∧ b.ComesFrom d := by
  cases result with
  | error e => exact ⟨(mapM_create_yields hs (Registry.run_make_error.1 hrun)).1, nofun⟩
  | ok entry =>
    obtain ⟨keys, s₁, hkeys, hentry⟩ := run_make_ok hs.toWellFormed hrun
    obtain ⟨hyields, hmade⟩ := mapM_create_yields hs hkeys
    rcases hentry with ⟨key, rfl, rfl, rfl⟩ | ⟨story, rfl, rfl, rfl⟩
    · obtain ⟨b, hb, hfrom⟩ := hmade _ rfl key (List.mem_singleton_self key)
      exact ⟨hyields, fun _ hentry => by cases hentry; exact ⟨key, b, rfl, hb, hfrom⟩⟩
    · have hslot : story.writeSlot ∈ story.slots := by
        rw [← story.slots_eq]
        exact List.mem_append_right _ (List.mem_singleton_self _)
      obtain ⟨b, hb, hfrom⟩ := hmade _ rfl story.writeSlot hslot
      refine ⟨IsTrans.trans _ s₁ _ hyields (yields_of_body (body?_of_targets rfl)),
        fun _ hentry => ?_⟩
      cases hentry
      refine ⟨story.writeSlot, b, ?_, (congrFun (body?_of_targets rfl) _).trans hb, hfrom⟩
      exact congrArg (Option.map Story.writeSlot) ((Table.get?_insert ..).trans (if_pos rfl))

/-! ### Known tags -/

/-- No target has been made. -/
def SameKeys (s s' : Store State) : Prop := s'.targets.keys = s.targets.keys

instance : IsPreorder (Store State) SameKeys where
  refl _ := rfl
  trans _ _ _ h h' := h'.trans h

theorem permitsContents_sameKeys : PermitsContents SameKeys where
  plain _ _ _ _ := rfl
  contents _ _ _ _ := Table.keys_modify ..

theorem SameKeys.body?_eq_none (h : SameKeys s s') (hnone : s.body? key = none) :
    s'.body? key = none := by
  have hmem : key ∉ s.targets.keys := fun hmem => by
    obtain ⟨t, ht⟩ := Option.isSome_iff_exists.1 (Table.mem_keys_iff.1 hmem)
    rw [body?_of_target? ht] at hnone
    cases hnone
  refine Option.map_eq_none_iff.2 (Option.not_isSome_iff_eq_none.1 fun hsome => hmem ?_)
  exact h ▸ Table.mem_keys_iff.2 hsome

end Store

/-! ### Preparations and draws -/

/-- A target that a preparation has made comes from its spec, and nothing else has changed. -/
theorem Registry.prepare_new {registry : Registry} {spec : TargetSpec} {format : TargetFormat}
    {s s' : Store State} {key : TargetKey} {b : Body}
    {result : Except DrawError (Resolved × Registry)} (hs : s.Owned)
    (hformat : registry.formatOf spec = .ok format)
    (hprepare : (registry.prepare spec).run s = (result, s')) (hnew : s.body? key = none)
    (hb : s'.body? key = some b) (htag : b.texture.tag = spec.tag) :
    ∃ size, b.ComesFrom (registry.describe spec format size) ∧
      ∀ other b', s.body? other = some b' → s'.body? other = some b' := by
  -- Without a new key the target would have been there before.
  have hmoved (hkeys : s.SameKeys s') : False := by
    rw [hkeys.body?_eq_none hnew] at hb
    cases hb
  have hrefresh {entry : Entry} {size : UInt32 × UInt32} {result : Except DrawError Unit}
      (hrun : (refresh entry size spec.data).run s = (result, s')) : False :=
    hmoved ((Store.refresh_moves (Store.update_moves Store.permitsContents_sameKeys) _ _ _).of_run
      hrun)
  have hmake {format' : TargetFormat} (haccepts : registry.Accepts s spec format')
      {result : Except DrawError Entry} (hrun : (make spec (registry.describe spec format'
        (spec.resolveSize (surface s)))).run s = (result, s')) :
      ∃ size, b.ComesFrom (registry.describe spec format size) ∧
        ∀ other b', s.body? other = some b' → s'.body? other = some b' := by
    cases hformat.symm.trans haccepts.known
    obtain ⟨hyields, -⟩ := Store.make_yields hs hrun
    exact ⟨_, hyields.new key b hnew hb htag, hyields.kept⟩
  cases prepare_prepared hprepare with
  | refused hsame =>
    rw [hsame, hnew] at hb
    cases hb
  | stale _ _ hrun => exact (hrefresh hrun).elim
  | found _ _ hrun => exact (hrefresh hrun).elim
  | short haccepts _ hrun => exact hmake haccepts hrun
  | made haccepts _ hrun => exact hmake haccepts hrun

namespace Renderer

variable {r made : Renderer State} {bag : Params.Bag} {spec : TargetSpec}
  {format : TargetFormat} {key : TargetKey}

/-- A draw into the target of a spec makes a target for the spec: it is there after the draw and
was not before, and it has the tag of the spec, which its companion has not. -/
structure MakesTarget (r : Renderer State) (bag : Params.Bag) (spec : TargetSpec)
    (format : TargetFormat) (key : TargetKey) (made : Renderer State) : Prop where
  draw : ((draw bag (.spec spec)).run r).2 = made
  format : r.registry.formatOf spec = .ok format
  new : r.store.target? key = none
  tagged : (made.store.target? key).map Target.tag = some spec.tag

/-- The targets of a renderer are as they were. -/
def SteadyTargets (r r' : Renderer State) : Prop := r.store.Steady r'.store

instance : IsPreorder (Renderer State) SteadyTargets where
  refl r := refl r.store
  trans _ _ _ h h' := IsTrans.trans (r := Store.Steady) _ _ _ h h'

/-- What comes after the preparation of a draw makes and changes no target. -/
theorem paint_steady (plan : Plan) (blend : Option Blend.State) (resolved : Resolved) :
    Attempt.Moves SteadyTargets
      (paint plan blend resolved : Attempt DrawError (Renderer State) Unit) := fun r =>
  (paint_moves Store.permitsBinding_steady (fun _ _ _ => Store.command_steady _ rfl rfl)
    (fun command hobjects hspecifies => Store.command_steady command
      (command.keepsFrames_of_keepsObjects hobjects) hspecifies)
    (fun key _ s => Store.rotate_steady s key) plan blend r rfl).2.1

/-- A target that a draw has made is what the spec asks for, and the others are as they were. -/
theorem MakesTarget.origin (h : r.MakesTarget bag spec format key made) (hs : r.store.Owned) :
    ∃ b size, made.store.body? key = some b ∧ b.texture.tag = spec.tag ∧
      b.ComesFrom (r.registry.describe spec format size) ∧
      ∀ other b', r.store.body? other = some b' → made.store.body? other = some b' := by
  obtain ⟨t, ht, htag⟩ := Option.map_eq_some_iff.1 h.tagged
  have hnew : r.store.body? key = none := congrArg (Option.map Target.body) h.new
  have hb := Store.body?_of_target? ht
  have hsteady := (settle_draw paint_steady bag (.spec spec) r).body
  rw [h.draw] at hsteady
  rw [hsteady] at hb ⊢
  rcases hsettle : (settle bag (.spec spec)).run r with ⟨result, r₁⟩
  rw [hsettle] at hb
  suffices horigin : ∃ size, t.body.ComesFrom (r.registry.describe spec format size) ∧
      ∀ other b', r.store.body? other = some b' → r₁.store.body? other = some b' by
    obtain ⟨size, hfrom, hkept⟩ := horigin
    exact ⟨t.body, size, hb, htag, hfrom, hkept⟩
  cases settle_settled hsettle with
  | apart hstore =>
    rw [hstore, hnew] at hb
    cases hb
  | refused hspec hprepare =>
    cases hspec
    exact Registry.prepare_new hs h.format hprepare hnew hb htag
  | prepared hspec hprepare =>
    cases hspec
    exact Registry.prepare_new hs h.format hprepare hnew hb htag

end Renderer

end DrawPass
