/-
DrawPass/Proofs/FailedPreparation.lean

What a failed preparation of a target leaves behind.

A preparation that fails should leave the textures of the device, the tags with their
slots and the sizes of their targets as they were (`Renderer.SameTargets`).  It does,
except in two situations.  If the device grants the textures of some slots of a new
story and not those of all, the textures of the finished slots stay (`Renderer.Leaks`);
and if a target is to change its size whose companion has been freed under it, the
target itself has changed by the time that the companion refuses
(`Renderer.ResizesHalf`).  `failed_preparation_keeps_targets_iff` says that there is no
third.
-/
import DrawPass.Proofs.Creation

namespace DrawPass

open Gl Software

/-- The targets of an entry. -/
def Entry.slots (s : Store State) : Entry → List TargetKey
  | .single key => [key]
  | .story key => ((s.story? key).map Story.slots).getD []

theorem Entry.mem_slots_story {s : Store State} {key : StoryKey} {slot : TargetKey} :
    slot ∈ (Entry.story key).slots s ↔ ∃ story, s.story? key = some story ∧ slot ∈ story.slots := by
  change slot ∈ ((s.story? key).map Story.slots).getD [] ↔ _
  cases s.story? key with
  | none => simp
  | some story => simp

/-- How many targets are made for a spec of a new tag. -/
def TargetSpec.slots (spec : TargetSpec) : Nat := max 1 (spec.story.getD 1)

theorem TargetSpec.slots_of_single {spec : TargetSpec} (h : ∀ n, spec.story ≠ some (n + 1)) :
    spec.slots = 1 := by
  rw [slots]
  rcases hcount : spec.story with _ | _ | n
  · rfl
  · rfl
  · exact absurd hcount (h n)

namespace Registry

variable {r : Registry} {spec : TargetSpec} {d : TargetDescription} {s s' : Store State}
  {e : DrawError}

/-- What a draw goes to next is one of the targets of the entry. -/
theorem writeSlot?_mem {entry : Entry} {key : TargetKey} (h : writeSlot? s entry = some key) :
    key ∈ entry.slots s := by
  cases entry with
  | single key' =>
    cases h
    exact List.mem_singleton_self _
  | story story =>
    obtain ⟨slots, hslots, rfl⟩ := Option.map_eq_some_iff.1 h
    refine Entry.mem_slots_story.2 ⟨slots, hslots, ?_⟩
    rw [← Story.slots_eq]
    exact List.mem_append_right _ (List.mem_singleton_self _)

/-! ### New tags -/

/-- The making of an entry is refused where the making of one of its targets is. -/
theorem run_make_error : (make spec d).run s = (.error e, s') ↔
    ((List.replicate spec.slots d).mapM Store.create).run s = (.error e, s') := by
  -- What only packs up a result is refused where the result is.
  have hpure {α β : Type} (f : α → β) (act : Attempt DrawError (Store State) α)
      (s : Store State) :
      (act >>= fun a => pure (f a)).run s = (.error e, s') ↔ act.run s = (.error e, s') := by
    rw [Attempt.run_bind_eq_error]
    refine ⟨fun h => h.resolve_right ?_, .inl⟩
    rintro ⟨a, s₁, -, h⟩
    cases h
  unfold make
  split
  -- The targets of a story are made one after the other, the current one first.
  · rename_i earlier hstory
    have hslots : spec.slots = earlier + 1 := by
      rw [TargetSpec.slots, hstory, Option.getD_some]
      omega
    rw [hslots, List.replicate_succ, List.mapM_cons, Attempt.run_bind_eq_error,
      Attempt.run_bind_eq_error]
    refine or_congr_right (exists_congr fun current => exists_congr fun s₁ => and_congr_right
      fun _ => ?_)
    rw [hpure, Attempt.run_bind_eq_error]
    refine ⟨fun h => h.resolve_right ?_, .inl⟩
    rintro ⟨slots, s₂, -, h⟩
    cases h
  · rename_i hstory
    rw [TargetSpec.slots_of_single hstory, hpure]
    change _ ↔ (Store.create d >>= fun key => List.mapM Store.create [] >>= fun keys =>
      pure (key :: keys)).run s = _
    rw [← hpure (fun key => [key])]
    rfl

/-- Data that does not fit is refused before the first of the targets is made. -/
theorem make_refused_data (h : (make spec d).run s = (.error e, s'))
    (hdata : checkData d.tag d.format.info d.size d.layers d.data ≠ .ok ()) : s' = s := by
  obtain ⟨e', hrun⟩ := Store.create_refused (s := s) hdata
  have hslots : spec.slots = (spec.slots - 1) + 1 := by
    rw [TargetSpec.slots]
    omega
  rw [run_make_error, hslots, List.replicate_succ, List.mapM_cons,
    Attempt.run_bind_error hrun] at h
  exact (congrArg Prod.snd h).symm

/-- Where the making of an entry is refused, data does not fit or the device has granted too few
textures; those of the finished slots stay. -/
theorem make_error (hs : s.WellFormed) (h : (make spec d).run s = (.error e, s')) : s' = s ∨
    checkData d.tag d.format.info d.size d.layers d.data = .ok () ∧
      ∃ granted names, s.device.failTextureAfter = some granted ∧
        granted < spec.slots * d.textures ∧ Store.Created s s' names ∧
        names.length = granted / d.textures * d.textures := by
  by_cases hdata : checkData d.tag d.format.info d.size d.layers d.data = .ok ()
  · rw [run_make_error] at h
    right
    by_cases hgrant : ∀ m, s.device.failTextureAfter = some m → spec.slots * d.textures ≤ m
    · obtain ⟨keys, s₁, names, hrun, -⟩ := Store.mapM_create_ok hdata hs hgrant
      rw [hrun] at h
      cases h
    · simp only [Classical.not_forall, Nat.not_le] at hgrant
      obtain ⟨granted, hgranted, hless⟩ := hgrant
      obtain ⟨e', s₁, names, hrun, hcreated, hlength⟩ :=
        Store.mapM_create_error hdata hs hgranted hless
      rw [hrun] at h
      cases h
      exact ⟨hdata, granted, names, hgranted, hless, hcreated, hlength⟩
  · exact .inl (make_refused_data h hdata)

/-! ### Known tags -/

/-- Where a target cannot be brought up to date, nothing has happened yet, or it has changed and
its own companion is no longer there to follow. -/
theorem refresh_error {entry : Entry} {size : UInt32 × UInt32} {data : Option PixelData}
    (h : (refresh entry size data).run s = (.error e, s')) : s' = s ∨
    ∃ key t own, writeSlot? s entry = some key ∧ s.target? key = some t ∧ t.freed = false ∧
      checkData t.tag t.info size t.layers data = .ok () ∧ t.companion.ownedKey? = some own ∧
      (∀ c, s.target? own = some c → c.freed = true) ∧ s' = s.respecified key t size data := by
  unfold refresh at h
  rw [Attempt.run_bind_ok (Attempt.run_get s)] at h
  rcases hkey : writeSlot? s entry with _ | key
  · rw [hkey] at h
    exact .inl (congrArg Prod.snd h).symm
  · rw [hkey] at h
    dsimp only at h
    split at h
    · rcases Store.update_error h with h | ⟨t, own, h⟩
      · exact .inl h
      · exact .inr ⟨key, t, own, rfl, h⟩
    · cases h

/-! ### Preparations -/

/-- The size of the surface that is drawn to. -/
def surface (s : Store State) : UInt32 × UInt32 :=
  (s.device.drawingBuffer.width, s.device.drawingBuffer.height)

/-- The spec passes everything that is checked before any target is looked at. -/
structure Accepts (r : Registry) (s : Store State) (spec : TargetSpec) (format : TargetFormat) :
    Prop where
  tag : spec.tag.isEmpty = false
  known : r.formatOf spec = .ok format
  bytes : checkBytes spec format (spec.resolveSize (surface s)) = .ok ()

theorem run_surface (s : Store State) :
    (Attempt.perform .drawingBufferSize : Attempt DrawError (Store State) _).run s =
      (.ok (surface s), s) := rfl

/-- How a target is prepared for a spec that is accepted. -/
theorem run_prepare {format : TargetFormat} (h : r.Accepts s spec format) :
    (r.prepare spec).run s = (match r.entries.get? spec.tag with
      | some entry => do
        refresh entry (spec.resolveSize (surface s)) spec.data
        return (entry.resolved, r)
      | none => do
        let entry ← make spec (r.describe spec format (spec.resolveSize (surface s)))
        return (entry.resolved, { r with entries := r.entries.insert spec.tag entry }) :
      Attempt DrawError (Store State) (Resolved × Registry)).run s := by
  unfold prepare
  simp only [h.tag, Bool.false_eq_true, if_false]
  refine (Attempt.run_bind_ok (Attempt.run_ofExcept_ok h.known s)).trans ?_
  refine (Attempt.run_bind_ok (run_surface s)).trans ?_
  exact Attempt.run_bind_ok (Attempt.run_ofExcept_ok h.bytes s)

/-- A spec that is not accepted is refused before anything is done. -/
theorem prepare_refused (h : ¬ ∃ format, r.Accepts s spec format) :
    ∃ e, (r.prepare spec).run s = (.error e, s) := by
  unfold prepare
  rcases htag : spec.tag.isEmpty with _ | _
  · simp only [Bool.false_eq_true, if_false]
    rcases hknown : r.formatOf spec with e | format
    · exact ⟨e, rfl⟩
    rcases hbytes : checkBytes spec format (spec.resolveSize (surface s)) with e | _
    · refine ⟨e, ?_⟩
      rw [Attempt.run_bind_ok (Attempt.run_ofExcept_ok rfl s),
        Attempt.run_bind_ok (run_surface s),
        Attempt.run_bind_error (Attempt.run_ofExcept_error hbytes s)]
    · exact absurd ⟨format, htag, hknown, hbytes⟩ h
  · exact ⟨.missingTag, rfl⟩

/-- How a preparation can end, and with which answer. -/
inductive Prepared (r : Registry) (spec : TargetSpec) (s s' : Store State) :
    Except DrawError (Resolved × Registry) → Prop
  | refused {e : DrawError} (h : s' = s) : Prepared r spec s s' (.error e)
  /-- The target of a known tag cannot be brought up to date. -/
  | stale {format : TargetFormat} {entry : Entry} {e : DrawError} (h : r.Accepts s spec format)
      (hentry : r.entries.get? spec.tag = some entry)
      (hrun : (refresh entry (spec.resolveSize (surface s)) spec.data).run s = (.error e, s')) :
      Prepared r spec s s' (.error e)
  | found {format : TargetFormat} {entry : Entry} (h : r.Accepts s spec format)
      (hentry : r.entries.get? spec.tag = some entry)
      (hrun : (refresh entry (spec.resolveSize (surface s)) spec.data).run s = (.ok (), s')) :
      Prepared r spec s s' (.ok (entry.resolved, r))
  /-- The targets of a new tag cannot all be made. -/
  | short {format : TargetFormat} {e : DrawError} (h : r.Accepts s spec format)
      (hnew : r.entries.get? spec.tag = none)
      (hrun : (make spec (r.describe spec format (spec.resolveSize (surface s)))).run s =
        (.error e, s')) : Prepared r spec s s' (.error e)
  | made {format : TargetFormat} {entry : Entry} (h : r.Accepts s spec format)
      (hnew : r.entries.get? spec.tag = none)
      (hrun : (make spec (r.describe spec format (spec.resolveSize (surface s)))).run s =
        (.ok entry, s')) :
      Prepared r spec s s' (.ok (entry.resolved, { r with entries := r.entries.insert spec.tag entry }))

/-- There is no other way. -/
theorem prepare_prepared {result : Except DrawError (Resolved × Registry)}
    (hrun : (r.prepare spec).run s = (result, s')) : Prepared r spec s s' result := by
  by_cases haccepts : ∃ format, r.Accepts s spec format
  case neg =>
    obtain ⟨e', hrefused⟩ := prepare_refused haccepts
    rw [hrefused] at hrun
    cases hrun
    exact .refused rfl
  obtain ⟨format, haccepts⟩ := haccepts
  rw [run_prepare haccepts] at hrun
  -- A tag that is known is refreshed, and a new one gets its targets.
  rcases hentry : r.entries.get? spec.tag with _ | entry <;> rw [hentry] at hrun <;>
    dsimp only at hrun
  · rcases hmake : (make spec (r.describe spec format (spec.resolveSize (surface s)))).run s with
      ⟨e | entry, s₁⟩
    · rw [Attempt.run_bind_error hmake] at hrun
      cases hrun
      exact .short haccepts hentry hmake
    · rw [Attempt.run_bind_ok hmake] at hrun
      cases hrun
      exact .made haccepts hentry hmake
  · rcases hrefresh : (refresh entry (spec.resolveSize (surface s)) spec.data).run s with
      ⟨e | ⟨⟩, s₁⟩
    · rw [Attempt.run_bind_error hrefresh] at hrun
      cases hrun
      exact .stale haccepts hentry hrefresh
    · rw [Attempt.run_bind_ok hrefresh] at hrun
      cases hrun
      exact .found haccepts hentry hrefresh

/-- A preparation fails before anything is done, or with the target of a known tag, or with those
of a new one. -/
theorem prepare_error (h : (r.prepare spec).run s = (.error e, s')) : s' = s ∨
    ∃ format, r.Accepts s spec format ∧
      ((∃ entry, r.entries.get? spec.tag = some entry ∧
          (refresh entry (spec.resolveSize (surface s)) spec.data).run s = (.error e, s')) ∨
        (r.entries.get? spec.tag = none ∧
          (make spec (r.describe spec format (spec.resolveSize (surface s)))).run s =
            (.error e, s'))) := by
  cases prepare_prepared h with
  | refused h => exact .inl h
  | stale haccepts hentry hrun => exact .inr ⟨_, haccepts, .inl ⟨_, hentry, hrun⟩⟩
  | short haccepts hnew hrun => exact .inr ⟨_, haccepts, .inr ⟨hnew, hrun⟩⟩

end Registry

/-! ### What is left behind -/

namespace Renderer

/-- The textures of the device, the tags with their slots, and the sizes of their targets are as
they were. -/
structure SameTargets (r r' : Renderer State) : Prop where
  textures : r'.store.device.textures.keys = r.store.device.textures.keys
  tags : r'.registry.entries = r.registry.entries
  slots : ∀ entry ∈ r.registry.entries.values, entry.slots r'.store = entry.slots r.store
  sizes : ∀ entry ∈ r.registry.entries.values, ∀ key ∈ entry.slots r.store, ∀ t,
    r.store.target? key = some t → ∃ t', r'.store.target? key = some t' ∧ t'.size = t.size

/-- What the targets of a spec of a new tag are made from. -/
def description (r : Renderer State) (spec : TargetSpec) (format : TargetFormat) :
    TargetDescription :=
  r.registry.describe spec format (spec.resolveSize (Registry.surface r.store))

/-- A story is to be made for a new tag, and the device grants the textures of one slot or more,
but not those of all. -/
structure Leaks (r : Renderer State) (spec : TargetSpec) (format : TargetFormat) (granted : Nat) :
    Prop where
  accepts : r.registry.Accepts r.store spec format
  new : r.registry.entries.get? spec.tag = none
  fits : checkData spec.tag format.color.info (spec.resolveSize (Registry.surface r.store))
    spec.layers spec.data = .ok ()
  grants : r.store.device.failTextureAfter = some granted
  some_slot : (r.description spec format).textures ≤ granted
  not_all : granted < spec.slots * (r.description spec format).textures

/-- The target that the next draw to a known tag goes to is to change its size, and its own
companion has been freed. -/
structure ResizesHalf (r : Renderer State) (spec : TargetSpec) (entry : Entry) (key : TargetKey)
    (t : Target) : Prop where
  accepts : ∃ format, r.registry.Accepts r.store spec format
  known : r.registry.entries.get? spec.tag = some entry
  slot : Registry.writeSlot? r.store entry = some key
  target : r.store.target? key = some t
  live : t.freed = false
  size : t.size ≠ spec.resolveSize (Registry.surface r.store)
  fits : checkData t.tag t.info (spec.resolveSize (Registry.surface r.store)) t.layers spec.data =
    .ok ()
  companion : ∃ own, t.companion.ownedKey? = some own ∧
    ∀ c, r.store.target? own = some c → c.freed = true

variable {r r' : Renderer State} {spec : TargetSpec}

theorem SameTargets.of_store (hstore : r'.store = r.store)
    (hregistry : r'.registry = r.registry) : SameTargets r r' where
  textures := by rw [hstore]
  tags := by rw [hregistry]
  slots _ _ := by rw [hstore]
  sizes _ _ _ _ t ht := ⟨t, by rw [hstore, ht], rfl⟩

/-- A target that could not be prepared leaves everything but the store alone. -/
theorem resolve_error {e : DrawError} (h : (resolve (.spec spec)).run r = (.error e, r')) :
    ∃ s', (r.registry.prepare spec).run r.store = (.error e, s') ∧ r' = { r with store := s' } := by
  unfold resolve at h
  rw [Attempt.run_bind_ok (Attempt.run_get r)] at h
  rcases hrun : (r.registry.prepare spec).run r.store with ⟨e' | ⟨resolved, registry⟩, s'⟩
  · have htry := run_tryOnStore (r.registry.prepare spec) r
    rw [hrun] at htry
    rw [Attempt.run_bind_error htry] at h
    cases h
    exact ⟨s', rfl, rfl⟩
  · have htry := run_tryOnStore (r.registry.prepare spec) r
    rw [hrun] at htry
    rw [Attempt.run_bind_ok htry] at h
    cases h

theorem slots_eq_of_stories {s s' : Store State} (h : s'.stories = s.stories) (entry : Entry) :
    entry.slots s' = entry.slots s := by
  cases entry with
  | single key => rfl
  | story key =>
    change ((s'.stories.get? key).map Story.slots).getD [] = _
    rw [h]
    rfl

/-- Nothing has been added to the textures. -/
theorem SameTargets.of_created {s' : Store State} (h : Store.Created r.store s' []) :
    SameTargets r { r with store := s' } where
  textures := by rw [h.textures, List.append_nil]
  tags := rfl
  slots entry _ := slots_eq_of_stories h.stories entry
  sizes _ _ key _ t ht :=
    ⟨t, (h.targets key (Table.mem_keys_iff.2 (Option.isSome_of_mem ht))).trans ht, rfl⟩

/-- The target has the size already. -/
theorem SameTargets.of_respecified {key : TargetKey} {t : Target} (ht : r.store.target? key = some t)
    (data : Option PixelData) :
    SameTargets r { r with store := r.store.respecified key t t.size data } where
  textures := Store.textures_respecified
  tags := rfl
  slots entry _ := slots_eq_of_stories Store.stories_respecified entry
  sizes _ _ key' _ t' ht' := by
    change ∃ t'', (r.store.respecified key t t.size data).target? key' = some t'' ∧ _
    rw [Store.target?_respecified, ht']
    split
    · rename_i hkey
      rw [← hkey, ht] at ht'
      cases ht'
      exact ⟨_, rfl, rfl⟩
    · exact ⟨t', rfl, rfl⟩

/-- What a leak leaves. -/
theorem Leaks.run {format : TargetFormat} {granted : Nat} (h : Leaks r spec format granted)
    (hs : r.store.WellFormed) :
    ∃ e s' names, (r.registry.prepare spec).run r.store = (.error e, s') ∧
      Store.Created r.store s' names ∧ names.length =
        granted / (r.description spec format).textures * (r.description spec format).textures := by
  obtain ⟨e, s', names, hrun, hcreated, hlength⟩ :=
    Store.mapM_create_error (d := r.description spec format) h.fits hs h.grants h.not_all
  refine ⟨e, s', names, ?_, hcreated, hlength⟩
  rw [Registry.run_prepare h.accepts, h.new]
  exact Attempt.run_bind_error (Registry.run_make_error.2 hrun)

/-- What the refusal of a companion leaves. -/
theorem ResizesHalf.run {entry : Entry} {key : TargetKey} {t : Target}
    (h : ResizesHalf r spec entry key t) :
    ∃ e, (r.registry.prepare spec).run r.store = (.error e,
      r.store.respecified key t (spec.resolveSize (Registry.surface r.store)) spec.data) := by
  obtain ⟨format, haccepts⟩ := h.accepts
  obtain ⟨own, hown, hgone⟩ := h.companion
  obtain ⟨e, hrun⟩ := Store.update_half h.target h.live h.fits hown hgone
  refine ⟨e, ?_⟩
  rw [Registry.run_prepare haccepts, h.known]
  refine Attempt.run_bind_error ?_
  unfold Registry.refresh
  rw [Attempt.run_bind_ok (Attempt.run_get _), h.slot]
  dsimp only
  rw [if_pos, hrun]
  rw [h.target]
  exact .inl fun heq => h.size (Option.some.inj heq)

/-- A failed preparation leaves the textures, the tags with their slots and the sizes of their
targets alone, except after a leak, which leaves the textures of the finished slots, and where the
companion of a target that is to change its size has been freed. -/
theorem failed_preparation_keeps_targets_iff {e : DrawError} (hr : Reachable r)
    (h : (resolve (.spec spec)).run r = (.error e, r')) :
    (SameTargets r r' ↔ ¬ ((∃ format granted, Leaks r spec format granted) ∨
      ∃ entry key t, ResizesHalf r spec entry key t)) ∧
    ∀ format granted, Leaks r spec format granted →
      ∃ names, r'.store.device.textures.keys = r.store.device.textures.keys ++ names ∧
        names.length = granted / (r.description spec format).textures *
          (r.description spec format).textures := by
  have hs := ReachableBy.wellFormed hr
  obtain ⟨s', hrun, rfl⟩ := resolve_error h
  have hleak {format : TargetFormat} {granted : Nat} (hleaks : Leaks r spec format granted) :
      ∃ names, Store.Created r.store s' names ∧ names.length =
        granted / (r.description spec format).textures *
          (r.description spec format).textures := by
    obtain ⟨e', s₁, names, hrun₁, hcreated, hlength⟩ := hleaks.run hs
    rw [hrun] at hrun₁
    cases hrun₁
    exact ⟨names, hcreated, hlength⟩
  refine ⟨⟨?_, fun hnone => ?_⟩, fun format granted hleaks => ?_⟩
  -- Both exceptions show: there are more textures, or a target has another size.
  · rintro hsame (⟨format, granted, hleaks⟩ | ⟨entry, key, t, hhalf⟩)
    · obtain ⟨names, hcreated, hlength⟩ := hleak hleaks
      have hnil : names = [] := by
        have hkeys := hsame.textures
        rw [hcreated.textures] at hkeys
        exact List.append_right_eq_self.1 hkeys
      have hpos := (r.description spec format).textures_pos
      have hone : 0 < granted / (r.description spec format).textures :=
        Nat.div_pos hleaks.some_slot hpos
      rw [hnil] at hlength
      exact absurd hlength (Nat.ne_of_lt (Nat.mul_pos hone hpos))
    · obtain ⟨e', hrun₁⟩ := hhalf.run
      rw [hrun] at hrun₁
      cases hrun₁
      have hmem : entry ∈ r.registry.entries.values :=
        List.mem_map.2 ⟨_, Table.get?_eq_some_iff.1 hhalf.known, rfl⟩
      obtain ⟨t', ht', hsize⟩ := hsame.sizes entry hmem key
        (Registry.writeSlot?_mem hhalf.slot) t hhalf.target
      rw [Store.target?_respecified_self hhalf.target] at ht'
      cases ht'
      exact hhalf.size hsize.symm
  -- Any other refusal leaves no texture behind and no target with another size.
  · rcases Registry.prepare_error hrun with rfl | ⟨format, haccepts, hfail⟩
    · exact .of_store rfl rfl
    rcases hfail with ⟨entry, hknown, hfail⟩ | ⟨hnew, hfail⟩
    · rcases Registry.refresh_error hfail with
        rfl | ⟨key, t, own, hslot, ht, hlive, hdata, hown, hgone, rfl⟩
      · exact .of_store rfl rfl
      by_cases hsize : t.size = spec.resolveSize (Registry.surface r.store)
      · rw [← hsize]
        exact .of_respecified ht spec.data
      · exact absurd (.inr ⟨entry, key, t, ⟨format, haccepts⟩, hknown, hslot, ht, hlive, hsize,
          hdata, own, hown, hgone⟩) hnone
    · rcases Registry.make_error hs hfail with
        rfl | ⟨hfits, granted, names, hgrants, hless, hcreated, hlength⟩
      · exact .of_store rfl rfl
      by_cases hslot : (r.description spec format).textures ≤ granted
      · exact absurd (.inl ⟨format, granted, haccepts, hnew, hfits, hgrants, hslot, hless⟩) hnone
      · change names.length = granted / (r.description spec format).textures * _ at hlength
        rw [Nat.div_eq_of_lt (Nat.lt_of_not_le hslot), Nat.zero_mul] at hlength
        rw [List.eq_nil_of_length_eq_zero hlength] at hcreated
        exact .of_created hcreated
  · obtain ⟨names, hcreated, hlength⟩ := hleak hleaks
    exact ⟨names, hcreated.textures, hlength⟩

/-- A story of two slots for which the device grants one texture. -/
theorem failed_preparation_leaves_one_texture :
    ∃ r r' : Renderer State, ∃ spec e, Reachable r ∧
      (resolve (.spec spec)).run r = (.error e, r') ∧ ¬ SameTargets r r' ∧
      ∃ name, r'.store.device.textures.keys = r.store.device.textures.keys ++ [name] := by
  have hr := ReachableBy.onePixel [.control (.failTextureAfter 1)]
  have hgrants : (Act.afterAll onePixel
      [.control (.failTextureAfter 1)]).store.device.failTextureAfter = some 1 := by
    decide +kernel
  have hnew : (Act.afterAll onePixel
      [.control (.failTextureAfter 1)]).registry.entries.get? "s" = none := by
    decide +kernel
  have hrefused : ((resolve (.spec { tag := "s", story := some 2 })).run (Act.afterAll onePixel
      [.control (.failTextureAfter 1)])).1.toOption.isNone := by
    decide +kernel
  generalize Act.afterAll onePixel [.control (.failTextureAfter 1)] = r at *
  obtain ⟨e, r', hrun⟩ := Attempt.exists_run_eq_error hrefused
  have hleaks : Leaks r { tag := "s", story := some 2 } ⟨r.registry.config.format, false⟩ 1 :=
    { accepts := ⟨rfl, rfl, rfl⟩
      new := hnew
      fits := rfl
      grants := hgrants
      some_slot := Nat.le_refl 1
      not_all := Nat.lt_succ_self 1 }
  obtain ⟨hiff, hleft⟩ := failed_preparation_keeps_targets_iff hr hrun
  obtain ⟨names, htextures, hlength⟩ := hleft _ _ hleaks
  have hone : (r.description { tag := "s", story := some 2 }
      ⟨r.registry.config.format, false⟩).textures = 1 := rfl
  rw [hone] at hlength
  obtain ⟨name, rfl⟩ := List.length_eq_one_iff.1 hlength
  exact ⟨r, r', _, e, hr, hrun, fun hsame => hiff.1 hsame (.inl ⟨_, _, hleaks⟩), name, htextures⟩

end Renderer

end DrawPass
