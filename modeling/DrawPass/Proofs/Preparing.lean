/-
DrawPass/Proofs/Preparing.lean

A tag names the same textures until the next reset.

What a tag stands for is settled when its first spec is prepared.  Later specs bring the
target up to date that the next draw goes to (`Store.Refreshed`): they give it the size and
the data that they ask for, and have no say in anything else.  Between two preparations a
story may turn, but the tag, the slots and the textures stay (`tag_names_same_textures`).
-/
import DrawPass.Proofs.Origin

namespace DrawPass

open Gl hiding Call
open Software

/-- The target that the next draw into something goes to: of a story, the oldest slot. -/
def Resolved.writeSlot? (s : Store State) : Resolved → Option TargetKey
  | .screen => none
  | .texture key => some key
  | .story key => (s.story? key).map Story.writeSlot

theorem Entry.writeSlot?_resolved (s : Store State) (entry : Entry) :
    entry.resolved.writeSlot? s = Registry.writeSlot? s entry := by
  cases entry <;> rfl

/-! ### Bringing a target up to date -/

namespace Store

variable {s s' : Store State} {key : TargetKey} {t : Target} {size : UInt32 × UInt32}
  {data : Option PixelData}

/-- The call specifies the storage of the target of a key anew, or that of its own companion. -/
def Respecifies (s : Store State) (key : TargetKey) (call : Call) : Prop :=
  ∃ t id width height layers format withData, s.target? key = some t ∧
    call = .texImage id width height layers format withData ∧
    (id = t.texture.name ∨ ∃ own c, t.companion.ownedKey? = some own ∧
      s.target? own = some c ∧ id = c.texture.name)

/-- The target of a key has been given a size and data.  If it has the size and there are no data,
nothing is done at all. -/
structure Refreshed (key : TargetKey) (size : UInt32 × UInt32) (data : Option PixelData)
    (s s' : Store State) : Prop where
  sized : (s'.target? key).map Target.size = some size
  stories : s'.stories = s.stories
  calls : ∃ calls, s'.device.calls = s.device.calls ++ calls ∧
    ∀ call ∈ calls, s.Respecifies key call
  idle : (s.target? key).map Target.size = some size → data = none → s' = s

theorem calls_respecified (s : Store State) (key : TargetKey) (t : Target)
    (size : UInt32 × UInt32) (data : Option PixelData) :
    (s.respecified key t size data).device.calls = s.device.calls ++
      [.texImage t.texture.name size.1 size.2 t.layers t.info.layout.internalFormat
        (data.map PixelData.bytes).isSome] :=
  (State.perform_texImage ..).1

/-- What a change that goes through has done. -/
theorem update_respecifies (h : (update key size data).run s = (.ok (), s')) :
    (s'.target? key).map Target.size = some size ∧ s'.stories = s.stories ∧
      ∃ calls, s'.device.calls = s.device.calls ++ calls ∧
        ∀ call ∈ calls, s.Respecifies key call := by
  obtain ⟨t, ht, -, -, ⟨-, rfl⟩ | ⟨own, c, hown, hc, -, rfl⟩⟩ := update_eq_ok h
  · refine ⟨?_, rfl, _, calls_respecified .., fun call hcall => ?_⟩
    · rw [target?_respecified_self ht]
      rfl
    · cases List.mem_singleton.1 hcall
      exact ⟨t, _, _, _, _, _, _, ht, rfl, .inl rfl⟩
  · obtain ⟨c₀, hc₀, hc'⟩ := target?_respecified_eq_some hc
    have hname : c.texture = c₀.texture := by rcases hc' with rfl | rfl <;> rfl
    have hcalls := (calls_respecified (s.respecified key t size data) own c size none).trans
      (congrArg (· ++ _) (calls_respecified s key t size data))
    rw [List.append_assoc] at hcalls
    refine ⟨?_, rfl, _, hcalls, fun call hcall => ?_⟩
    · rw [target?_respecified, target?_respecified_self ht]
      split <;> rfl
    · rcases List.mem_append.1 hcall with hcall | hcall <;> cases List.mem_singleton.1 hcall
      · exact ⟨t, _, _, _, _, _, _, ht, rfl, .inl rfl⟩
      · exact ⟨t, _, _, _, _, _, _, ht, rfl, .inr ⟨own, c₀, hown, hc₀, congrArg _ hname⟩⟩

end Store

namespace Registry

variable {registry registry' : Registry} {spec : TargetSpec} {entry : Entry} {resolved : Resolved}
  {s s' : Store State} {size : UInt32 × UInt32} {data : Option PixelData}

theorem writeSlot?_of_stories (h : s'.stories = s.stories) (entry : Entry) :
    writeSlot? s' entry = writeSlot? s entry := by
  cases entry with
  | single => rfl
  | story key =>
    unfold writeSlot? Store.story?
    rw [h]

/-- A target that has the size is left alone. -/
theorem refresh_idle {key : TargetKey} (hkey : writeSlot? s entry = some key)
    (hsize : (s.target? key).map Target.size = some size) :
    (refresh entry size none).run s = (.ok (), s) := by
  unfold refresh
  rw [Attempt.run_bind_ok (Attempt.run_get s), hkey]
  dsimp only
  rw [if_neg (by simp [hsize])]
  rfl

/-- What the next draw to a known tag goes to is brought up to date. -/
theorem refresh_refreshed (h : (refresh entry size data).run s = (.ok (), s')) :
    ∃ key, writeSlot? s entry = some key ∧ s.Refreshed key size data s' := by
  rcases hkey : writeSlot? s entry with _ | key
  · unfold refresh at h
    rw [Attempt.run_bind_ok (Attempt.run_get s), hkey] at h
    cases h
  refine ⟨key, rfl, ?_⟩
  by_cases hsame : (s.target? key).map Target.size = some size ∧ data = none
  · obtain ⟨hsize, rfl⟩ := hsame
    rw [refresh_idle hkey hsize] at h
    cases h
    exact ⟨hsize, rfl, ⟨[], (List.append_nil _).symm, nofun⟩, fun _ _ => rfl⟩
  · have hchange : (s.target? key).map Target.size ≠ some size ∨ data.isSome := by
      rw [not_and_or] at hsame
      exact hsame.imp_right fun hdata => Option.isSome_iff_ne_none.2 hdata
    unfold refresh at h
    rw [Attempt.run_bind_ok (Attempt.run_get s), hkey] at h
    dsimp only at h
    rw [if_pos hchange] at h
    obtain ⟨hsized, hstories, hcalls⟩ := Store.update_respecifies h
    exact ⟨hsized, hstories, hcalls, fun hsize hdata => absurd ⟨hsize, hdata⟩ hsame⟩

/-- A preparation that goes through has its tag in the registry, and what the next draw goes to has
the size of the spec. -/
theorem prepare_sized (hs : s.Owned)
    (hprepare : (registry.prepare spec).run s = (.ok (resolved, registry'), s')) :
    ∃ entry key t, registry'.entries.get? spec.tag = some entry ∧ entry.resolved = resolved ∧
      resolved.writeSlot? s' = some key ∧ s'.target? key = some t ∧
      t.size = spec.resolveSize (surface s) := by
  cases prepare_prepared hprepare with
  | @found format entry _ hentry hrun =>
    obtain ⟨key, hkey, hsized, hstories, -⟩ := refresh_refreshed hrun
    obtain ⟨t, ht, hsize⟩ := Option.map_eq_some_iff.1 hsized
    refine ⟨entry, key, t, hentry, rfl, ?_, ht, hsize⟩
    rw [entry.writeSlot?_resolved, writeSlot?_of_stories hstories, hkey]
  | @made format entry _ _ hrun =>
    obtain ⟨-, hmade⟩ := Store.make_yields hs hrun
    obtain ⟨key, b, hkey, hb, hfrom⟩ := hmade entry rfl
    obtain ⟨t, ht, rfl⟩ := Store.body?_eq_some hb
    exact ⟨entry, key, t, (Table.get?_insert ..).trans (if_pos rfl), rfl,
      (entry.writeSlot?_resolved s').trans hkey, ht, hfrom.size⟩

/-- A preparation of a known tag finds what the tag stands for. -/
theorem prepare_refreshed (hentry : registry.entries.get? spec.tag = some entry)
    (hprepare : (registry.prepare spec).run s = (.ok (resolved, registry'), s')) :
    resolved = entry.resolved ∧ registry' = registry ∧ ∃ key, resolved.writeSlot? s = some key ∧
      s.Refreshed key (spec.resolveSize (surface s)) spec.data s' := by
  cases prepare_prepared hprepare with
  | @found format entry' _ hentry' hrun =>
    cases hentry.symm.trans hentry'
    obtain ⟨key, hkey, hrefreshed⟩ := refresh_refreshed hrun
    exact ⟨rfl, rfl, key, (entry.writeSlot?_resolved s).trans hkey, hrefreshed⟩
  | made _ hnew =>
    rw [hnew] at hentry
    cases hentry

/-- Without data, the preparation of a known tag does nothing if the size is right. -/
theorem prepare_idle (hentry : registry.entries.get? spec.tag = some entry)
    (hdata : spec.data = none) {key : TargetKey} (hkey : entry.resolved.writeSlot? s = some key)
    (hsize : (s.target? key).map Target.size = some (spec.resolveSize (surface s))) :
    ((registry.prepare spec).run s).2 = s := by
  rw [entry.writeSlot?_resolved] at hkey
  have hidle := refresh_idle hkey hsize
  rw [← hdata] at hidle
  rcases hprepare : (registry.prepare spec).run s with ⟨result, s'⟩
  cases prepare_prepared hprepare with
  | refused hsame => exact hsame
  | stale _ hentry' hrun =>
    cases hentry.symm.trans hentry'
    rw [hidle] at hrun
    cases hrun
  | found _ hentry' hrun =>
    cases hentry.symm.trans hentry'
    rw [hidle] at hrun
    cases hrun
    rfl
  | short _ hnew =>
    rw [hnew] at hentry
    cases hentry
  | made _ hnew =>
    rw [hnew] at hentry
    cases hentry

end Registry

/-! ### What stays -/

namespace Store

variable {s s' s'' : Store State} {key : TargetKey}

/-- Stories keep their slots, in whatever order. -/
def KeepsSlots (s s' : Store State) : Prop :=
  s.Owned → s'.Owned ∧ ∀ key slots, s.slots? key = some slots → s'.slots? key = some slots

instance : IsPreorder (Store State) KeepsSlots where
  refl _ hs := ⟨hs, fun _ _ h => h⟩
  trans _ _ _ h h' hs := by
    obtain ⟨hs', hkeeps⟩ := h hs
    obtain ⟨hs'', hkeeps'⟩ := h' hs'
    exact ⟨hs'', fun key slots hslots => hkeeps' key slots (hkeeps key slots hslots)⟩

/-- If no story changes, the slots stay. -/
theorem keepsSlots_of_keepsStory (howning : Owning s s') (h : ∀ key, KeepsStory key s s') :
    KeepsSlots s s' := by
  refine fun hs => ⟨howning hs, fun key slots hslots => ?_⟩
  obtain ⟨story, hstory, rfl⟩ := Option.map_eq_some_iff.1 hslots
  rw [slots?, (h key hs).2 story hstory]
  rfl

theorem permits_keepsSlots : Permits KeepsSlots fun _ => True where
  plain command hfixed hobjects s := keepsSlots_of_keepsStory
    (permits_owning.plain command hfixed hobjects s)
    fun _ => permits_keepsStory.plain command hfixed hobjects s
  contents s key f hf := keepsSlots_of_keepsStory (permits_owning.contents s key f hf)
    fun _ => permits_keepsStory.contents s key f hf
  makeFramebuffer s key t ht hfreed hnone := keepsSlots_of_keepsStory
    (permits_owning.makeFramebuffer s key t ht hfreed hnone)
    fun _ => permits_keepsStory.makeFramebuffer s key t ht hfreed hnone
  free key s := keepsSlots_of_keepsStory (permits_owning.free key s)
    fun _ => permits_keepsStory.free key s
  make r spec format size h s := keepsSlots_of_keepsStory (permits_owning.make r spec format size h s)
    fun _ => permits_keepsStory.make r spec format size h s

/-- The target of a key is there, with the texture that it had. -/
def SameTexture (s s' : Store State) (key : TargetKey) : Prop :=
  ∃ t t', s.target? key = some t ∧ s'.target? key = some t' ∧ t'.texture = t.texture

theorem KeepsTextures.sameTexture (h : KeepsTextures s s') (hs : s.WellFormed) {t : Target}
    (ht : s.target? key = some t) : s.SameTexture s' key := by
  obtain ⟨t', ht', htexture⟩ := (h hs).2 key t ht
  exact ⟨t, t', ht, ht', htexture⟩

end Store

/-- Every act leaves every story its slots. -/
theorem Act.after_keepsSlots (act : Act) (r : Renderer State) :
    Store.KeepsSlots r.store (act.after r).store :=
  Act.moves Store.permits_keepsSlots
    { command := fun command hfixed hframes hspecifies s => Store.keepsSlots_of_keepsStory
        (Store.permitsReads_owning.command command hfixed hframes hspecifies s)
        fun _ => Store.permitsReads_keepsStory.command command hfixed hframes hspecifies s
      pool := fun s key f => Store.keepsSlots_of_keepsStory
        (Store.permitsReads_owning.pool s key f) fun _ => Store.permitsReads_keepsStory.pool s key f
      reads := fun s s' hdevice htargets hstories => Store.keepsSlots_of_keepsStory
        (Store.permitsReads_owning.reads s s' hdevice htargets hstories)
        fun _ => Store.permitsReads_keepsStory.reads s s' hdevice htargets hstories }
    (fun command hframes s => Store.keepsSlots_of_keepsStory (Store.command_owning command hframes s)
      fun _ => Store.keepsStory_of_same (Store.command_owning command hframes s) rfl)
    (fun s key hs => ⟨Store.rotate_owning s key hs, fun key' _ hslots =>
      (congrFun (Store.rotate_steady s key).slots key').trans hslots⟩)
    (fun s change => Store.keepsSlots_of_keepsStory (change.owning s)
      fun _ => Store.keepsStory_of_same (change.owning s) rfl) act r

/-- What has been drawn into is there, with the same slots and the same textures. -/
def Resolved.SameTextures (s s' : Store State) : Resolved → Prop
  | .screen => False
  | .texture key => s.SameTexture s' key
  | .story key => ∃ story story', s.story? key = some story ∧ s'.story? key = some story' ∧
    story'.slots.Perm story.slots ∧ ∀ slot ∈ story.slots, s.SameTexture s' slot

namespace Resolved

variable {s s' s'' : Store State} {resolved : Resolved}

/-- What can be drawn into next has targets for all its slots. -/
theorem sameTextures_of_keeps (hs : s.Owned) {key : TargetKey} {t : Target}
    (hkey : resolved.writeSlot? s = some key) (ht : s.target? key = some t)
    (htextures : ∀ key t, s.target? key = some t → s.SameTexture s' key)
    (hslots : ∀ key slots, s.slots? key = some slots → s'.slots? key = some slots) :
    resolved.SameTextures s s' := by
  cases resolved with
  | screen => cases hkey
  | texture key' =>
    cases hkey
    exact htextures key t ht
  | story key' =>
    obtain ⟨story, hstory, -⟩ := Option.map_eq_some_iff.1 hkey
    have hkept := hslots key' _ (congrArg (Option.map _) hstory)
    obtain ⟨story', hstory', hperm⟩ := Option.map_eq_some_iff.1 hkept
    refine ⟨story, story', hstory, hstory', Multiset.coe_eq_coe.1 hperm, fun slot hslot => ?_⟩
    obtain ⟨t', ht'⟩ := hs.exists_target (hs.slots key' story hstory slot hslot)
    exact htextures slot t' ht'

end Resolved

/-- Whatever a host does, targets keep their textures and stories their slots. -/
theorem Act.keeps_afterAll (acts : List Act) (r : Renderer State) :
    r.store.KeepsTextures (Act.afterAll r acts).store ∧
      r.store.KeepsSlots (Act.afterAll r acts).store :=
  ⟨Act.afterAll_moves Act.after_keepsTextures acts r,
    Act.afterAll_moves Act.after_keepsSlots acts r⟩

/-- A tag stands for the same textures until the next reset.  Once a draw has prepared a tag, the
target or the story that it resolved to has the size of the spec where the next draw goes; and
whatever the host does short of a reset, a later preparation of the tag, by a draw or by itself,
resolves to the same with the same textures.  It makes no textures: its calls specify the storage of
the target that the next draw goes to, which then has the size of the spec, and of its own
companion, and there are none unless the size was another or there are data.  So without data there
are none when the preparation is repeated. -/
theorem tag_names_same_textures {r settled r' : Renderer State} (hr : Reachable r)
    {bag : Params.Bag} {spec : TargetSpec} {plan : Plan} {blend : Option Blend.State}
    {resolved : Resolved}
    (hfirst : (Renderer.settle bag (.spec spec)).run r = (.ok (plan, blend, resolved), settled))
    {acts : List Act} (hacts : ∀ act ∈ acts, act ≠ .reset)
    (hr' : Act.afterAll r (.draw bag (.spec spec) :: acts) = r') {later : TargetSpec}
    {resolved' : Resolved} {registry' : Registry} {s' : Store State} (htag : later.tag = spec.tag)
    (hlater : (r'.registry.prepare later).run r'.store = (.ok (resolved', registry'), s')) :
    (∃ key t, resolved.writeSlot? settled.store = some key ∧
      settled.store.target? key = some t ∧
      t.size = spec.resolveSize (Registry.surface r.store)) ∧
    resolved' = resolved ∧ registry' = r'.registry ∧ resolved.SameTextures settled.store s' ∧
    (∃ key, resolved.writeSlot? r'.store = some key ∧ r'.store.Refreshed key
      (later.resolveSize (Registry.surface r'.store)) later.data s') ∧
    ∀ again : TargetSpec, again.tag = spec.tag → again.data = none →
      again.resolveSize (Registry.surface s') = later.resolveSize (Registry.surface r'.store) →
      ((registry'.prepare again).run s').2 = s' := by
  have hsettled : settled.store.Owned := by
    have howning : r.Over r.geometry.buffer Store.Owning settled :=
      (Renderer.settle_moves Store.permits_owning bag fun _ _ => trivial).of_run hfirst
    exact (howning rfl).2.1 hr.owned
  obtain ⟨hprepare, htags⟩ : (r.registry.prepare spec).run r.store =
      (.ok (resolved, settled.registry), settled.store) ∧
      ((Act.draw bag (.spec spec)).after r).registry = settled.registry := by
    have hsame := Renderer.settle_draw Renderer.paint_sameTags bag (.spec spec) r
    rw [hfirst] at hsame
    refine ⟨?_, hsame⟩
    cases Renderer.settle_settled hfirst with
    | apart _ _ hresult =>
      rcases hresult with hspec | ⟨e, he⟩
      · exact absurd rfl (hspec spec)
      · cases he
    | prepared hspec hprepare =>
      cases hspec
      exact hprepare
  obtain ⟨entry, key, t, hentry, rfl, hkey, ht, hsize⟩ := Registry.prepare_sized hr.owned hprepare
  -- The tag stands for the entry as long as it is not reset.
  have hentry' : r'.registry.entries.get? later.tag = some entry := by
    rw [← hr', htag]
    refine Act.entry_afterAll (r := (Act.draw bag (.spec spec)).after r) hacts ?_
    rw [htags]
    exact hentry
  obtain ⟨rfl, rfl, key', hkey', hrefreshed⟩ := Registry.prepare_refreshed hentry' hlater
  -- From the first preparation to the later one, and through the later one.
  have hsteady : settled.store.Steady ((Act.draw bag (.spec spec)).after r).store := by
    have hsteady := Renderer.settle_draw Renderer.paint_steady bag (.spec spec) r
    rwa [hfirst] at hsteady
  have hr₁ : ((Act.draw bag (.spec spec)).after r).store.Owned := Act.after_owning _ r hr.owned
  have hrun := Act.keeps_afterAll acts ((Act.draw bag (.spec spec)).after r)
  rw [show Act.afterAll ((Act.draw bag (.spec spec)).after r) acts = r' from hr'] at hrun
  obtain ⟨htextures, hslots⟩ := hrun
  have hprepared : r'.store.KeepsTextures s' := (Store.prepare_moves
    (Store.update_moves Store.permits_keepsTextures.toPermitsContents)
    (Store.permits_keepsTextures.plain _ rfl rfl) r'.registry fun _ _ =>
      Store.permits_keepsTextures.make _ _ _ _ trivial).of_run hlater
  refine ⟨⟨key, t, hkey, ht, hsize⟩, rfl, rfl, ?same, ⟨key', hkey', hrefreshed⟩, ?again⟩
  case same =>
    refine Resolved.sameTextures_of_keeps hsettled hkey ht (fun k t₀ ht₀ => ?_) fun k slots hk => ?_
    · have hb := (congrFun hsteady.body k).trans (Store.body?_of_target? ht₀)
      obtain ⟨t₁, ht₁, hb₁⟩ := Store.body?_eq_some hb
      obtain ⟨_, t₂, ht₁', ht₂, htexture⟩ :=
        (IsTrans.trans _ _ _ htextures hprepared).sameTexture hr₁.toWellFormed ht₁
      cases ht₁.symm.trans ht₁'
      exact ⟨t₀, t₂, ht₀, ht₂, htexture.trans (congrArg Body.texture hb₁)⟩
    · rw [Store.slots?_of_stories hrefreshed.stories]
      exact (hslots hr₁).2 k slots ((congrFun hsteady.slots k).trans hk)
  case again =>
    intro again hagain hdata hsizes
    have hslot : entry.resolved.writeSlot? s' = some key' := by
      rw [entry.writeSlot?_resolved, Registry.writeSlot?_of_stories hrefreshed.stories,
        ← entry.writeSlot?_resolved]
      exact hkey'
    exact Registry.prepare_idle (hagain ▸ htag ▸ hentry') hdata hslot (hsizes ▸ hrefreshed.sized)

/-- A story of two slots, which is drawn into and then prepared at another size. -/
theorem tag_names_same_textures_of_story :
    ∃ settled r' : Renderer State, ∃ registry' s', Reachable r' ∧
      (r'.registry.prepare { tag := "s", size := some (2, 3) }).run r'.store =
        (.ok (.story ⟨0⟩, registry'), s') ∧
      Resolved.SameTextures settled.store s' (.story ⟨0⟩) := by
  have hr := ReachableBy.onePixel
    [.draw .empty (.spec { tag := "s", story := some 2 }), .draw .empty (.story ⟨0⟩)]
  have hfirst : ((Renderer.settle .empty (.spec { tag := "s", story := some 2 })).run
      Renderer.onePixel).1.toOption.map (·.2.2) = some (.story ⟨0⟩) := by
    decide +kernel
  have hlater : (((Act.afterAll Renderer.onePixel [.draw .empty (.spec
      { tag := "s", story := some 2 }), .draw .empty (.story ⟨0⟩)]).registry.prepare
      { tag := "s", size := some (2, 3) }).run (Act.afterAll Renderer.onePixel [.draw .empty (.spec
      { tag := "s", story := some 2 }), .draw .empty (.story ⟨0⟩)]).store).1.toOption.map (·.1) =
        some (.story ⟨0⟩) := by
    decide +kernel
  rcases hsettle : (Renderer.settle .empty (.spec { tag := "s", story := some 2 })).run
    Renderer.onePixel with ⟨e | ⟨plan, blend, resolved⟩, settled⟩ <;> rw [hsettle] at hfirst
  · cases hfirst
  generalize hr' : Act.afterAll Renderer.onePixel [.draw .empty (.spec
    { tag := "s", story := some 2 }), .draw .empty (.story ⟨0⟩)] = r' at hr hlater
  rcases hprepare : (r'.registry.prepare { tag := "s", size := some (2, 3) }).run r'.store with
    ⟨e | ⟨resolved', registry'⟩, s'⟩ <;> rw [hprepare] at hlater
  · cases hlater
  cases (Option.some.inj hfirst : resolved = .story ⟨0⟩)
  cases (Option.some.inj hlater : resolved' = .story ⟨0⟩)
  have hacts : ∀ act ∈ [Act.draw .empty (.story ⟨0⟩)], act ≠ .reset := by simp
  have hsame := tag_names_same_textures (.start Renderer.create_onePixel) hsettle hacts hr' (by rfl)
    hprepare
  exact ⟨settled, r', registry', s', hr, hprepare, hsame.2.2.2.1⟩

end DrawPass
