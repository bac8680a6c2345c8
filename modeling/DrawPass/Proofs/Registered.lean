/-
DrawPass/Proofs/Registered.lean

Every target that is there belongs to a tag.

A host that leaves it to resets to free targets can only lose sight of a target if the device
refuses one of the textures of a story: the slots that have been made by then stay, under no
tag.  As long as no draw is refused for want of an object (`Act.IsGranted`), each target that
has not been freed is a slot of an entry or the companion of one (`Registry.Covers`).  So a
reset, which frees the slots, leaves no target: a companion ends with its owner.
-/
import DrawPass.Proofs.Lockstep

namespace DrawPass

open Gl Software

namespace Store

variable {s s' s'' : Store State} {key own : TargetKey} {t : Target} {keys keys' : List TargetKey}
  {d : TargetDescription} {companion : Companion} {e : DrawError}

/-! ### What comes to life -/

/-- The target of a key is the slot, or is the companion that the slot owns. -/
def Heads (s : Store State) (slot key : TargetKey) : Prop := slot = key ∨ s.Owns slot key

/-- Targets that have come to life are those of some slots and their companions; owners keep
their companions, and stories their slots. -/
structure Adds (keys : List TargetKey) (s s' : Store State) : Prop where
  live : ∀ key, s'.IsLive key → s.IsLive key ∨ ∃ slot ∈ keys, s'.Heads slot key
  owns : ∀ key own, s.Owns key own → s'.Owns key own
  slots : ∀ key slots, s.slots? key = some slots → s'.slots? key = some slots

theorem Adds.refl (s : Store State) : Adds [] s s := ⟨fun _ => .inl, fun _ _ => id, fun _ _ => id⟩

theorem Adds.heads (h : Adds keys s s') {slot : TargetKey} (hheads : s.Heads slot key) :
    s'.Heads slot key := hheads.imp_right (h.owns slot key)

theorem Adds.trans (h : Adds keys s s') (h' : Adds keys' s' s'') : Adds (keys ++ keys') s s'' where
  live key hlive := by
    rcases h'.live key hlive with hlive' | ⟨slot, hslot, hheads⟩
    · exact (h.live key hlive').imp_right fun ⟨slot, hslot, hheads⟩ =>
        ⟨slot, List.mem_append_left _ hslot, h'.heads hheads⟩
    · exact .inr ⟨slot, List.mem_append_right _ hslot, hheads⟩
  owns key own hown := h'.owns key own (h.owns key own hown)
  slots key slots hslots := h'.slots key slots (h.slots key slots hslots)

theorem isLive_iff : s.IsLive key ↔ ∃ b, s.body? key = some b ∧ b.freed = false := by
  constructor
  · rintro ⟨t, ht, hfreed⟩
    exact ⟨t.body, body?_of_target? ht, hfreed⟩
  · rintro ⟨b, hb, hfreed⟩
    obtain ⟨t, ht, rfl⟩ := body?_eq_some hb
    exact ⟨t, ht, hfreed⟩

/-- Nothing comes to life where bodies at most change and end. -/
theorem adds_of_body {f : TargetKey → Body → Body}
    (hbody : ∀ key, s'.body? key = (s.body? key).map (f key))
    (hcompanion : ∀ key b, (f key b).companion = b.companion)
    (hfreed : ∀ key b, (f key b).freed = false → b.freed = false) (hslots : s'.slots? = s.slots?) :
    Adds [] s s' where
  live key hlive := by
    obtain ⟨b, hb, hb'⟩ := isLive_iff.1 hlive
    rw [hbody] at hb
    obtain ⟨b₀, hb₀, rfl⟩ := Option.map_eq_some_iff.1 hb
    exact .inl (isLive_iff.2 ⟨b₀, hb₀, hfreed key b₀ hb'⟩)
  owns key own := by
    rintro ⟨b, hb, hown⟩
    refine ⟨f key b, (hbody key).trans (congrArg _ hb), ?_⟩
    rwa [hcompanion]
  slots key slots hkey := hslots ▸ hkey

theorem Steady.adds (h : Steady s s') : Adds [] s s' :=
  adds_of_body (f := fun _ b => b) (fun key => by rw [h.body, Option.map_id']) (fun _ _ => rfl)
    (fun _ _ => id) h.slots

theorem Released.adds (h : Released key t s s') (ht : s.target? key = some t) : Adds [] s s' := by
  refine adds_of_body (f := fun key' b => if key' = key then b.released else b) (fun key' => ?_)
    (fun key' b => ?_) (fun key' b hfreed => ?_) h.slots?
  · rw [h.body? ht]
    split
    · rfl
    · exact Option.map_id'.symm
  · split <;> rfl
  · split at hfreed
    · cases hfreed
    · exact hfreed

/-! ### What fades -/

/-- No target comes to life. -/
def Fades (s s' : Store State) : Prop := s.Owned → s'.Owned ∧ Adds [] s s'

instance : IsPreorder (Store State) Fades where
  refl s hs := ⟨hs, .refl s⟩
  trans s s' s'' h h' hs := by
    obtain ⟨hs', hadds⟩ := h hs
    obtain ⟨hs'', hadds'⟩ := h' hs'
    exact ⟨hs'', hadds.trans hadds'⟩

theorem fades_of_steady (howning : Owning s s') (h : Steady s s') : Fades s s' :=
  fun hs => ⟨howning hs, h.adds⟩

theorem owns_iff_frame : s.Owns key own ↔
    ∃ f, s.frame? key = some f ∧ f.companion.ownedKey? = some own := by
  constructor
  · rintro ⟨b, hb, hown⟩
    obtain ⟨t, ht, rfl⟩ := body?_eq_some hb
    exact ⟨t.frame, frame?_of_target? ht, hown⟩
  · rintro ⟨f, hf, hown⟩
    obtain ⟨t, ht, rfl⟩ := Option.map_eq_some_iff.1 hf
    exact ⟨t.body, body?_of_target? ht, hown⟩

/-- What targets are drawn into is the same, whatever their contents. -/
theorem fades_of_frames (howning : Owning s s') (h : SameFrames s s')
    (hstories : s'.stories = s.stories) : Fades s s' := by
  refine fun hs => ⟨howning hs, fun key hlive => .inl (h.live ▸ hlive), fun key own hown => ?_,
    fun _ _ hslots => slots?_of_stories hstories ▸ hslots⟩
  rw [owns_iff_frame, h.frame, ← owns_iff_frame]
  exact hown

theorem free_fades (key : TargetKey) :
    Moves Fades (free key : StateM (Store State) Unit) := by
  intro s hs
  refine free_moves_at (R := Fades) (fun s s' key t ht _ hend hs => ?_) (fun t own ht hown => ?_) hs
  · exact ⟨hs.released hend ht, hend.adds ht⟩
  · exact hs.own_ne ht hown

theorem permits_fades : Permits Fades fun _ => False where
  plain command hfixed hobjects s :=
    fades_of_frames (permitsContents_owning.plain command hfixed hobjects s)
      (permitsContents_sameFrames.plain command hfixed hobjects s) rfl
  contents s key f hf := fades_of_frames (permitsContents_owning.contents s key f hf)
    (permitsContents_sameFrames.contents s key f hf) rfl
  makeFramebuffer s key t ht _ _ :=
    fades_of_steady (makeFramebuffer_owning ht) (makeFramebuffer_steady s key t)
  free := free_fades
  make _ _ _ _ h := h.elim

theorem permitsReads_fades : PermitsReads Fades where
  command command hfixed hframes hspecifies s :=
    fades_of_steady (permitsReads_owning.command command hfixed hframes hspecifies s)
      (permitsReads_steady.command command hfixed hframes hspecifies s)
  pool s key f := fades_of_steady (permitsReads_owning.pool s key f)
    (permitsReads_steady.pool s key f)
  reads s s' hdevice htargets hstories :=
    fades_of_steady (permitsReads_owning.reads s s' hdevice htargets hstories)
      (permitsReads_steady.reads s s' hdevice htargets hstories)

/-! ### New targets -/

/-- A new target is the only one that comes to life. -/
theorem Planted.adds (hnew : Planted d companion s s') (hs : s.WellFormed) :
    Adds [s.nextTarget] s s' where
  live key hlive := by
    obtain ⟨b, hb, hfreed⟩ := isLive_iff.1 hlive
    rw [hnew.body] at hb
    split at hb
    · rename_i hkey
      exact .inr ⟨_, List.mem_singleton_self _, .inl hkey.symm⟩
    · exact .inl (isLive_iff.2 ⟨b, hb, hfreed⟩)
  owns key own := fun ⟨b, hb, hown⟩ => ⟨b, hnew.kept hs hb, hown⟩
  slots key slots hslots := hnew.slots ▸ hslots

/-- What owns nothing heads itself alone. -/
theorem Heads.eq {slot : TargetKey} {b : Body} (h : s.Heads slot key) (hb : s.body? slot = some b)
    (hnone : b.companion.ownedKey? = none) : slot = key := by
  rcases h with hkey | ⟨b', hb', hown⟩
  · exact hkey
  · cases hb.symm.trans hb'
    rw [hnone] at hown
    cases hown

/-- However the making of a target ends, no other target comes to life but its companion. -/
theorem create_adds {result : Except DrawError TargetKey} (hs : s.Owned)
    (hrun : (create d).run s = (result, s')) : Adds result.toOption.toList s s' := by
  cases create_made hs hrun with
  | refused hsteady => exact hsteady.adds
  | alone _ hnew => exact hnew.adds hs.toWellFormed
  | @paired s₁ _ hfirst hs₁ hnew =>
    have hboth := (hfirst.adds hs.toWellFormed).trans (hnew.adds hs₁.toWellFormed)
    have hcompanion := hnew.kept hs₁.toWellFormed ((hfirst.body _).trans (if_pos rfl))
    refine ⟨fun key hlive => (hboth.live key hlive).imp_right fun ⟨slot, hslot, hheads⟩ => ?_,
      hboth.owns, hboth.slots⟩
    refine ⟨s₁.nextTarget, List.mem_singleton_self _, ?_⟩
    rcases List.mem_append.1 hslot with hslot | hslot <;> cases List.mem_singleton.1 hslot
    · exact .inr ⟨_, (hnew.body _).trans (if_pos rfl), congrArg some (hheads.eq hcompanion rfl)⟩
    · exact hheads
  | @undone _ s₁ c _ hfirst _ hc hend =>
    have hboth := (hfirst.adds hs.toWellFormed).trans (hend.adds hc)
    have hcompanion : s'.body? s.nextTarget =
        some (d.companion.body s.nextTarget (s.device.lastName + 1) .none).released := by
      rw [hend.body? hc, if_pos rfl, hfirst.body, if_pos rfl, Option.map_some]
    refine ⟨fun key hlive => .inl ?_, hboth.owns, hboth.slots⟩
    rcases hboth.live key hlive with hold | ⟨slot, hslot, hheads⟩
    · exact hold
    · cases List.mem_singleton.1 hslot
      exact absurd (hheads.eq hcompanion rfl).symm (((hend.targets hc).2.2.2 key).1 hlive).1

/-- Targets made one after the other. -/
theorem mapM_create_adds {n : Nat} {keys : List TargetKey} (hs : s.Owned)
    (hrun : ((List.replicate n d).mapM create).run s = (.ok keys, s')) :
    s'.Owned ∧ Adds keys s s' := by
  obtain ⟨-, hmade⟩ := mapM_create_rule (d := d) (P := fun s₁ keys => s₁.Owned ∧ Adds keys s s₁)
    (fun s₁ s₂ keys result ⟨hs₁, hadds⟩ hrun => by
      have hs₂ := (create_owning d).of_run hrun hs₁
      have hboth := hadds.trans (create_adds hs₁ hrun)
      refine ⟨fun e he => ⟨hs₂, ?_⟩, fun key hkey => ⟨hs₂, ?_⟩⟩
      · rw [he] at hboth
        exact List.append_nil keys ▸ hboth
      · rw [hkey] at hboth
        exact hboth)
    [] ⟨hs, .refl s⟩ hrun
  exact hmade keys rfl

/-- The targets of a new entry, and their companions, are the ones that come to life. -/
theorem make_adds {spec : TargetSpec} {entry : Entry} (hs : s.Owned)
    (hrun : (Registry.make spec d).run s = (.ok entry, s')) : Adds (entry.slots s') s s' := by
  obtain ⟨keys, s₁, hkeys, hmade⟩ := run_make_ok hs.toWellFormed hrun
  obtain ⟨hs₁, hadds⟩ := mapM_create_adds hs hkeys
  rcases hmade with ⟨key, rfl, rfl, rfl⟩ | ⟨story, rfl, rfl, rfl⟩
  · exact hadds
  have hstory : (s₁.addStory story).2.story? ⟨s₁.stories.size⟩ = some story :=
    (Table.get?_insert ..).trans (if_pos rfl)
  have hslots : Entry.slots (s₁.addStory story).2 (.story ⟨s₁.stories.size⟩) = story.slots :=
    congrArg (fun found => (found.map Story.slots).getD []) hstory
  rw [hslots]
  refine ⟨hadds.live, hadds.owns, fun key slots hkey => ?_⟩
  have hkey₁ := hadds.slots key slots hkey
  rw [slots?_addStory, if_neg, hkey₁]
  rintro rfl
  rw [slots?, hs₁.story?_next] at hkey₁
  cases hkey₁

/-! ### Refusals -/

/-- A target is refused for want of its texture. -/
theorem createWith_gl (hs : s.WellFormed)
    (hdata : checkData d.tag d.format.info d.size d.layers d.data = .ok ())
    (hcompanion : ∀ own, companion.ownedKey? = some own → ∃ b, s.body? own = some b ∧
      b.freed = false ∧ b.size = d.size ∧ s.device.textureSize? b.texture.name = some b.extent)
    (hrun : (createWith d companion).run s = (.error e, s')) : ∃ cause, e = .gl cause := by
  by_cases hgrant : s.device.failTextureAfter = some 0
  · refine ⟨"texture creation failed", ?_⟩
    unfold createWith at hrun
    rw [Attempt.run_bind_ok (run_createTexture_error hgrant)] at hrun
    dsimp only at hrun
    split at hrun <;> cases hrun <;> rfl
  · obtain ⟨_, hok, -⟩ := createWith_planted hs hgrant hdata hcompanion
    rw [hok] at hrun
    cases hrun

/-- A target that is made from data that fits is refused for want of a texture. -/
theorem create_gl (hs : s.Owned)
    (hdata : checkData d.tag d.format.info d.size d.layers d.data = .ok ())
    (hrun : (create d).run s = (.error e, s')) : ∃ cause, e = .gl cause := by
  have hlent {companion : Companion} (hown : companion.ownedKey? = none)
      (hrun : (createWith d companion).run s = (.error e, s')) : ∃ cause, e = .gl cause :=
    createWith_gl hs.toWellFormed hdata (by simp [hown]) hrun
  rw [run_create hdata] at hrun
  split at hrun
  · exact hlent rfl hrun
  split at hrun
  · rcases @createWith_lent s d.companion .none hs.toWellFormed rfl rfl with
      ⟨e', s₁, hfirst, -⟩ | ⟨s₁, hfirst, hplanted⟩
    · rw [Attempt.run_bind_error hfirst] at hrun
      cases hrun
      refine createWith_gl hs.toWellFormed rfl ?_ hfirst
      exact nofun
    · rw [Attempt.run_bind_ok hfirst] at hrun
      have hs₁ : s₁.Owned := by
        have howned : ((createWith d.companion .none).run s).2.Owned := createWith_owning hs nofun
        rwa [hfirst] at howned
      refine createWith_gl hs₁.toWellFormed hdata (fun own hown => ?_) hrun
      cases hown
      exact ⟨_, (hplanted.body _).trans (if_pos rfl), rfl, rfl,
        (hplanted.extents _).trans (if_pos rfl)⟩
  · exact hlent rfl hrun

theorem mapM_create_gl {n : Nat} (hs : s.Owned)
    (hdata : checkData d.tag d.format.info d.size d.layers d.data = .ok ())
    (hrun : ((List.replicate n d).mapM create).run s = (.error e, s')) :
    ∃ cause, e = .gl cause := by
  induction n generalizing s with
  | zero => cases hrun
  | succ n ih =>
    rw [List.replicate_succ, List.mapM_cons] at hrun
    rcases Attempt.run_bind_eq_error.1 hrun with hfirst | ⟨key, s₁, hfirst, hrest⟩
    · exact create_gl hs hdata hfirst
    · rcases Attempt.run_bind_eq_error.1 hrest with hrest | ⟨_, _, _, hlast⟩
      · exact ih ((create_owning d).of_run hfirst hs) hrest
      · cases hlast

/-- An entry that is refused for something else has not been begun. -/
theorem make_kept {spec : TargetSpec} (hs : s.Owned)
    (hrun : (Registry.make spec d).run s = (.error e, s')) (hgranted : ∀ cause, e ≠ .gl cause) :
    s' = s := by
  rcases Registry.make_error hs.toWellFormed hrun with hsame | ⟨hdata, -⟩
  · exact hsame
  · obtain ⟨cause, hcause⟩ := mapM_create_gl hs hdata (Registry.run_make_error.1 hrun)
    exact absurd hcause (hgranted cause)

/-! ### Ends -/

/-- What has been freed is not there. -/
theorem free_dead (hs : s.Owned) (key : TargetKey) :
    ¬ ((free key : StateM (Store State) Unit) s).2.IsLive key := by
  by_cases hgone : ∀ t, s.target? key = some t → t.freed = true
  · rw [run_free_gone hgone]
    rintro ⟨t, ht, hfreed⟩
    rw [hgone t ht] at hfreed
    cases hfreed
  obtain ⟨t, ht, hfreed⟩ : ∃ t, s.target? key = some t ∧ t.freed = false := by
    simpa using hgone
  have hne (own : TargetKey) (hown : t.companion.ownedKey? = some own) : own ≠ key :=
    hs.own_ne ht hown
  by_cases hthere : ∃ own c, t.companion.ownedKey? = some own ∧ s.target? own = some c ∧
      c.freed = false
  · obtain ⟨own, c, hown, hc, hcfreed⟩ := hthere
    obtain ⟨s₁, s', hrun, hfirst, hend⟩ := run_free_owner ht hfreed hown (hne own hown) hc hcfreed
    have ht₁ : s₁.target? key = some t := by
      rw [hfirst.target, if_neg (hne own hown).symm, ht]
    rw [hrun]
    exact fun hlive => (((hend.targets ht₁).2.2.2 key).1 hlive).1 rfl
  · obtain ⟨s', hrun, hend⟩ := run_free_alone ht hfreed fun own hown => ⟨hne own hown, fun c hc =>
      Bool.not_eq_false _ ▸ fun hcfreed => hthere ⟨own, c, hown, hc, hcfreed⟩⟩
    rw [hrun]
    exact fun hlive => (((hend.targets ht).2.2.2 key).1 hlive).1 rfl

/-- What one of several fading actions ends stays so. -/
theorem foldl_dead {α : Type} {act : α → StateM (Store State) Unit}
    (slots : Store State → α → List TargetKey) (hfades : ∀ a, Moves Fades (act a))
    (hslots : ∀ (s s' : Store State) a, Adds [] s s' → slots s a ⊆ slots s' a)
    (hdead : ∀ (s : Store State) a, s.Owned → ∀ key ∈ slots s a, ¬ (act a s).2.IsLive key)
    {l : List α} (hs : s.Owned) :
    ∀ a ∈ l, ∀ key ∈ slots s a, ¬ (l.foldl (fun s a => (act a s).2) s).IsLive key := by
  induction l generalizing s with
  | nil => nofun
  | cons b l ih =>
    obtain ⟨hs₁, hadds⟩ := hfades b s hs
    intro a ha key hkey hlive
    rcases List.mem_cons.1 ha with rfl | ha
    · have hrest : Fades (act a s).2 _ := Moves.foldl (fun a _ => hfades a) (l := l) _
      rcases (hrest hs₁).2.live key hlive with hlive | ⟨_, hslot, -⟩
      · exact hdead s a hs key hkey hlive
      · cases hslot
    · exact ih hs₁ a ha key (hslots _ _ a hadds hkey) hlive

theorem slots_subset (h : Adds keys s s') (entry : Entry) : entry.slots s ⊆ entry.slots s' := by
  cases entry with
  | single key => exact List.Subset.refl _
  | story key =>
    intro slot hslot
    obtain ⟨story, hstory, hslot⟩ := Entry.mem_slots_story.1 hslot
    have hkept := h.slots key _ (congrArg (Option.map _) hstory)
    obtain ⟨story', hstory', hperm⟩ := Option.map_eq_some_iff.1 hkept
    exact Entry.mem_slots_story.2 ⟨story', hstory', (Multiset.coe_eq_coe.1 hperm).mem_iff.2 hslot⟩

theorem freeEntry_dead (hs : s.Owned) (entry : Entry) :
    ∀ slot ∈ entry.slots s,
      ¬ ((Registry.freeEntry entry : StateM (Store State) Unit) s).2.IsLive slot := by
  intro slot hslot
  unfold Registry.freeEntry
  cases entry with
  | single key =>
    exact List.mem_singleton.1 hslot ▸ free_dead hs key
  | story key =>
    obtain ⟨story, hstory, hslot⟩ := Entry.mem_slots_story.1 hslot
    dsimp only
    rw [run_get_bind, hstory]
    dsimp only
    rw [run_forIn_bind]
    exact foldl_dead (fun _ key => [key]) free_fades (fun _ _ _ _ => List.Subset.refl _)
      (fun s key hs _ hkey => List.mem_singleton.1 hkey ▸ free_dead hs key) hs slot hslot slot
      (List.mem_singleton_self slot)

theorem freeAll_dead (hs : s.Owned) (registry : Registry) :
    ∀ entry ∈ registry.entries.values, ∀ slot ∈ entry.slots s,
      ¬ ((registry.freeAll : StateM (Store State) Registry) s).2.IsLive slot := by
  unfold Registry.freeAll
  rw [run_forIn_bind]
  exact foldl_dead (fun s entry => entry.slots s) (freeEntry_moves free_fades)
    (fun _ _ entry hadds => slots_subset hadds entry) (fun _ entry hs => freeEntry_dead hs entry) hs

end Store

/-! ### Tags -/

namespace Registry

open Store

variable {registry registry' : Registry} {s s' : Store State} {spec : TargetSpec}

/-- Every target that is there is a slot of an entry, or the companion of one. -/
def Covers (registry : Registry) (s : Store State) : Prop :=
  ∀ key, s.IsLive key → ∃ tag entry, registry.entries.get? tag = some entry ∧
    ∃ slot ∈ entry.slots s, s.Heads slot key

/-- What is new has to be under a tag, and tags are not to be forgotten. -/
theorem Covers.adds {keys : List TargetKey} (h : registry.Covers s) (hadds : Adds keys s s')
    (htags : ∀ tag entry, registry.entries.get? tag = some entry →
      registry'.entries.get? tag = some entry)
    (hkeys : ∀ slot ∈ keys, ∃ tag entry, registry'.entries.get? tag = some entry ∧
      slot ∈ entry.slots s') : registry'.Covers s' := by
  intro key hlive
  rcases hadds.live key hlive with hold | ⟨slot, hslot, hheads⟩
  · obtain ⟨tag, entry, hentry, slot, hslot, hheads⟩ := h key hold
    exact ⟨tag, entry, htags tag entry hentry, slot, slots_subset hadds entry hslot,
      hadds.heads hheads⟩
  · obtain ⟨tag, entry, hentry, hmem⟩ := hkeys slot hslot
    exact ⟨tag, entry, hentry, slot, hmem, hheads⟩

theorem Covers.fades (h : registry.Covers s) (hadds : Adds [] s s') : registry.Covers s' :=
  h.adds hadds (fun _ _ => id) nofun

/-- A preparation that is not refused for want of an object puts its targets under a tag. -/
theorem prepare_covers {result : Except DrawError (Resolved × Registry)} (hs : s.Owned)
    (h : registry.Covers s) (hprepare : (registry.prepare spec).run s = (result, s'))
    (hgranted : ∀ cause, result ≠ .error (.gl cause)) :
    (∀ e, result = .error e → registry.Covers s') ∧
      ∀ resolved registry', result = .ok (resolved, registry') → registry'.Covers s' := by
  -- A known entry covers the same targets, whether or not they could be changed.
  have hrefresh {entry : Entry} {result : Except DrawError Unit}
      (hrun : (refresh entry (spec.resolveSize (surface s)) spec.data).run s = (result, s')) :
      registry.Covers s' := by
    have hfades : Fades s s' :=
      (refresh_moves (update_moves permits_fades.toPermitsContents) _ _ _).of_run hrun
    exact h.fades (hfades hs).2
  cases prepare_prepared hprepare with
  | refused hsame => exact ⟨fun _ _ => hsame ▸ h, fun _ _ hok => by cases hok⟩
  | stale _ _ hrun => exact ⟨fun _ _ => hrefresh hrun, fun _ _ hok => by cases hok⟩
  | found _ _ hrun =>
    refine ⟨nofun, fun _ _ hresult => ?_⟩
    cases hresult
    exact hrefresh hrun
  | short _ _ hrun =>
    have hsame := make_kept hs hrun fun cause hcause => hgranted cause (hcause ▸ rfl)
    exact ⟨fun _ _ => hsame ▸ h, fun _ _ hok => by cases hok⟩
  | made _ hnew hrun =>
    refine ⟨nofun, fun _ _ hresult => ?_⟩
    cases hresult
    -- The tag is new, so the entries of the other tags are found as before.
    refine h.adds (make_adds hs hrun) (fun tag entry hentry => ?_) fun slot hslot =>
      ⟨spec.tag, _, (Table.get?_insert ..).trans (if_pos rfl), hslot⟩
    refine (Table.get?_insert ..).trans ((if_neg ?_).trans hentry)
    rintro rfl
    rw [hnew] at hentry
    cases hentry

end Registry

/-! ### Acts -/

/-- The device refuses no object to a draw. -/
def Act.IsGranted (r : Renderer State) : Act → Prop
  | draw bag destination => ∀ cause, ((Renderer.draw bag destination).run r).1 ≠ .error (.gl cause)
  | _ => True

/-- The device refuses no object to the draws of a run. -/
def Act.AreGranted : Renderer State → List Act → Prop
  | _, [] => True
  | r, act :: acts => act.IsGranted r ∧ AreGranted (act.after r) acts

namespace Renderer

variable {r r' : Renderer State} {bag : Params.Bag} {destination : Destination}

/-- Settling on a target. -/
theorem Settled.covers {result : Except DrawError (Plan × Option Blend.State × Resolved)}
    (h : Settled destination r r' result) (hs : r.store.Owned)
    (hcovers : r.registry.Covers r.store) (hgranted : ∀ cause, result ≠ .error (.gl cause)) :
    r'.registry.Covers r'.store := by
  cases h with
  | apart hstore htags => rwa [hstore, htags]
  | refused _ hprepare htags =>
    rw [htags]
    refine (Registry.prepare_covers hs hcovers hprepare fun cause hcause => ?_).1 _ rfl
    exact hgranted cause (congrArg _ (Except.error.inj hcause))
  | prepared _ hprepare =>
    exact (Registry.prepare_covers hs hcovers hprepare nofun).2 _ _ rfl

theorem draw_covers (hs : r.store.Owned) (hcovers : r.registry.Covers r.store)
    (hgranted : (Act.draw bag destination).IsGranted r) :
    ((draw bag destination).run r).2.registry.Covers ((draw bag destination).run r).2.store := by
  have hsteady := settle_draw paint_steady bag destination r
  have htags := settle_draw paint_sameTags bag destination r
  rcases hsettle : (settle bag destination).run r with ⟨result, settled⟩
  rw [hsettle] at hsteady htags
  rw [show ((draw bag destination).run r).2.registry = settled.registry from htags]
  refine Registry.Covers.fades ?_ (Store.Steady.adds hsteady)
  refine (settle_settled hsettle).covers hs hcovers fun cause hcause => hgranted cause ?_
  rw [hcause] at hsettle
  rw [draw_eq, Attempt.run_bind_error hsettle]

/-- After a reset there is no target. -/
theorem reset_dead (hr : r.Lockstep) (hcovers : r.registry.Covers r.store) (key : TargetKey) :
    ¬ (reset r).2.store.IsLive key := by
  have hcleared : Store.Fades r.store r.cleared := by
    refine Store.after_moves (fun command hcommand s => ?_) r.store
    obtain ⟨id, -, rfl⟩ := List.mem_map.1 hcommand
    exact Store.fades_of_steady (Store.command_owning _ rfl s) (Store.command_steady _ rfl rfl s)
  obtain ⟨howned, hadds⟩ := hcleared hr.owned
  have hlock := (reset_staysInLockstep r hr).store
  have hfreed := Store.freeAll_dead howned r.registry
  obtain ⟨-, hfades⟩ := Store.freeAll_moves Store.free_fades r.registry r.cleared howned
  rw [run_reset] at hlock ⊢
  dsimp only at hlock ⊢
  intro hlive
  rcases hfades.live key hlive with hlive₁ | ⟨_, hnone, -⟩
  · obtain ⟨tag, entry, hentry, slot, hslot, hheads⟩ := hcovers.fades hadds key hlive₁
    have hdead := hfreed entry (List.mem_map.2 ⟨_, Table.get?_eq_some_iff.1 hentry, rfl⟩) slot hslot
    rcases hfades.heads hheads with rfl | ⟨b, hb, hown⟩
    · exact hdead hlive
    · -- A companion that is there has an owner that is there.
      obtain ⟨c, hc, hdepth⟩ := hlock.companion slot b key hb hown
      obtain ⟨c', hc', hcfreed⟩ := Store.isLive_iff.1 hlive
      cases hc.symm.trans hc'
      exact hdead (Store.isLive_iff.2 ⟨b, hb, hdepth.freed.symm.trans hcfreed⟩)
  · cases hnone

/-- A new renderer has no targets. -/
theorem covers_create {config : Config} {width height : UInt32}
    (hr : create config { device := State.new width height } = .ok r) :
    r.registry.Covers r.store := by
  obtain ⟨_, -, -, -, -, hstore⟩ := create_new hr
  rw [hstore]
  rintro key ⟨t, ht, -⟩
  cases ht

end Renderer

/-- Every granted act of a hands-off host leaves the targets that are there under tags. -/
theorem Act.after_covers {act : Act} {r : Renderer State} (hr : r.Lockstep)
    (hgranted : act.IsGranted r) (h : r.registry.Covers r.store) :
    (act.after r).registry.Covers (act.after r).store := by
  have haside (hact : act.isAside) (hnodraw : ∀ bag destination, act ≠ .draw bag destination) :
      (act.after r).registry.Covers (act.after r).store := by
    have hfades : r.Over r.geometry.buffer Store.Fades (act.after r) :=
      Act.after_moves Store.permits_fades
        (fun key _ s =>
          Store.fades_of_steady (Store.rotate_owning s key) (Store.rotate_steady s key))
        (fun change _ s => Store.fades_of_steady (change.owning s) (change.steady s))
        Store.permitsReads_fades hnodraw r
    rw [Act.after_aside hact]
    exact h.fades ((hfades rfl).2.1 hr.owned).2
  cases act with
  | draw bag destination => exact Renderer.draw_covers hr.owned h hgranted
  | reset =>
    intro key hlive
    exact absurd hlive (Renderer.reset_dead hr h key)
  | _ => exact haside rfl fun _ _ h => by cases h

/-- The targets that are there after a granted run of a hands-off host are under tags. -/
theorem Act.afterAll_covers {acts : List Act} {r : Renderer State}
    (hr : ReachableBy (fun act => act.isHandsOff) r) (hacts : ∀ act ∈ acts, act.isHandsOff)
    (hgranted : Act.AreGranted r acts) (h : r.registry.Covers r.store) :
    (Act.afterAll r acts).registry.Covers (Act.afterAll r acts).store := by
  induction acts generalizing r with
  | nil => exact h
  | cons act acts ih =>
    rw [List.forall_mem_cons] at hacts
    exact ih (hr.step act hacts.1) hacts.2 hgranted.2
      (Act.after_covers hr.lockstep hgranted.1 h)

end DrawPass
