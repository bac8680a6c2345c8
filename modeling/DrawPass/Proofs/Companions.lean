/-
DrawPass/Proofs/Companions.lean

Targets and the companions that they own.

A companion of its own is made just before its target, follows every change of the target's
size and is freed with it.  `Store.Lockstep` says so of a store: of each owned companion
that it has the shape that its target asks for, and of each target that its texture has the
size that the target says.  For this to last, nobody may change or free a companion by
itself; so the steps that change and free are looked at for principal targets only, which
no target owns (`IsPrincipal`), and the slots of stories are principal.

Each step keeps the store in lockstep and makes no principal target a companion (`Locked`).
It may rely on some targets being principal that are to be changed or freed (`Locks`).
-/
import DrawPass.Proofs.Making

namespace DrawPass

open Gl Software

namespace Body

/-- The body of the depth companion that a target owns. -/
structure IsDepthOf (c b : Body) : Prop where
  tag : c.texture.tag = b.texture.tag ++ "_depth"
  format : c.texture.format = .depth
  layers : c.layers = none
  companion : c.companion = .none
  size : c.size = b.size
  freed : c.freed = b.freed

variable {b c : Body}

theorem IsDepthOf.resized (h : c.IsDepthOf b) (size : UInt32 × UInt32) :
    (c.resized size).IsDepthOf (b.resized size) :=
  ⟨h.tag, h.format, h.layers, h.companion, rfl, h.freed⟩

theorem IsDepthOf.released (h : c.IsDepthOf b) : c.released.IsDepthOf b.released :=
  ⟨h.tag, h.format, h.layers, h.companion, h.size, rfl⟩

end Body

namespace Store

variable {P : TargetKey → Prop} {s s' : Store State} {key own : TargetKey} {t : Target}
  {size : UInt32 × UInt32} {data : Option PixelData} {d : TargetDescription}
  {companion : Companion}

/-! ### The invariant -/

/-- The target of a key has a companion of its own. -/
def Owns (s : Store State) (key own : TargetKey) : Prop :=
  ∃ b, s.body? key = some b ∧ b.companion.ownedKey? = some own

/-- The key has been given out, and its target is no target's own companion. -/
structure IsPrincipal (s : Store State) (key : TargetKey) : Prop where
  there : key.index < s.nextTarget.index
  unowned : ∀ owner, ¬ s.Owns owner key

/-- The textures of the targets that are there have the sizes of their targets. -/
def Stored (s : Store State) : Prop :=
  ∀ key b, s.body? key = some b → b.freed = false →
    s.device.textureSize? b.texture.name = some b.extent

/-- Companions are what their targets ask for, and no story has one as a slot. -/
structure Lockstep (s : Store State) : Prop where
  companion : ∀ key b own, s.body? key = some b → b.companion.ownedKey? = some own →
    ∃ c, s.body? own = some c ∧ c.IsDepthOf b
  sole : ∀ key key' own, s.Owns key own → s.Owns key' own → key = key'
  stored : s.Stored
  slots : ∀ key slots, s.slots? key = some slots → ∀ slot ∈ slots, s.IsPrincipal slot

/-- The store stays in lockstep, and no principal target becomes a companion. -/
structure Locked (s s' : Store State) : Prop where
  lockstep : s'.Lockstep
  principal : ∀ key, s.IsPrincipal key → s'.IsPrincipal key

/-- A store that owns what it uses and is in lockstep stays so, if some targets are principal. -/
def Locks (P : TargetKey → Prop) (s s' : Store State) : Prop :=
  s.Owned → s.Lockstep → (∀ key, P key → s.IsPrincipal key) → s'.Owned ∧ Locked s s'

theorem Locked.trans {s'' : Store State} (h : Locked s s') (h' : Locked s' s'') :
    Locked s s'' where
  lockstep := h'.lockstep
  principal key hkey := h'.principal key (h.principal key hkey)

theorem Lockstep.locked (h : s.Lockstep) : Locked s s where
  lockstep := h
  principal _ hkey := hkey

instance : IsPreorder (Store State) (Locks P) where
  refl _ hs h _ := ⟨hs, h.locked⟩
  trans _ _ _ h h' hs hlock hP := by
    obtain ⟨hs', hlocked⟩ := h hs hlock hP
    obtain ⟨hs'', hlocked'⟩ := h' hs' hlocked.lockstep fun key hkey =>
      hlocked.principal key (hP key hkey)
    exact ⟨hs'', hlocked.trans hlocked'⟩

/-- A companion owns nothing. -/
theorem Lockstep.not_owns (h : s.Lockstep) (hown : s.Owns key own) (own' : TargetKey) :
    ¬ s.Owns own own' := by
  obtain ⟨b, hb, hkey⟩ := hown
  obtain ⟨c, hc, hdepth⟩ := h.companion key b own hb hkey
  rintro ⟨c', hc', hkey'⟩
  cases hc.symm.trans hc'
  rw [hdepth.companion] at hkey'
  cases hkey'

/-! ### Steady steps -/

theorem Steady.locked (h : Steady s s') (hlock : s.Lockstep) : Locked s s' := by
  have howns : s'.Owns = s.Owns := by
    funext key own
    rw [Owns, h.body, Owns]
  have hprincipal (key : TargetKey) (hkey : s.IsPrincipal key) : s'.IsPrincipal key :=
    ⟨h.nextTarget ▸ hkey.there, howns ▸ hkey.unowned⟩
  refine ⟨⟨?_, howns ▸ hlock.sole, ?_, ?_⟩, hprincipal⟩
  · rw [h.body]
    exact hlock.companion
  · unfold Stored
    rw [h.body, h.extents]
    exact hlock.stored
  · rw [h.slots]
    exact fun key slots hslots slot hslot => hprincipal slot (hlock.slots key slots hslots slot hslot)

theorem locks_of_steady (howning : Owning s s') (h : Steady s s') : Locks P s s' :=
  fun hs hlock _ => ⟨howning hs, h.locked hlock⟩

theorem permitsBinding_locks : PermitsBinding (Locks P) where
  plain command hfixed hobjects hspecifies s :=
    locks_of_steady (permitsContents_owning.plain command hfixed hobjects s)
      (permitsBinding_steady.plain command hfixed hobjects hspecifies s)
  mark s key f hf hsize := locks_of_steady (permitsContents_owning.contents s key f hf)
    (permitsBinding_steady.mark s key f hf hsize)
  makeFramebuffer s key t ht _ _ :=
    locks_of_steady (makeFramebuffer_owning ht) (makeFramebuffer_steady s key t)

theorem permitsReads_locks : PermitsReads (Locks P) where
  command command hfixed hframes hspecifies s :=
    locks_of_steady (permitsReads_owning.command command hfixed hframes hspecifies s)
      (permitsReads_steady.command command hfixed hframes hspecifies s)
  pool s key f := locks_of_steady (permitsReads_owning.pool s key f)
    (permitsReads_steady.pool s key f)
  reads s s' hdevice htargets hstories :=
    locks_of_steady (permitsReads_owning.reads s s' hdevice htargets hstories)
      (permitsReads_steady.reads s s' hdevice htargets hstories)

theorem rotate_locks (s : Store State) (key : StoryKey) : Locks P s (s.rotate key) :=
  locks_of_steady (rotate_owning s key) (rotate_steady s key)

/-! ### A target and its companion -/

/-- What happens to a principal target happens to its companion as well. -/
theorem Lockstep.together (h : s.Lockstep) (hkey : s.IsPrincipal key) {f : Body → Body}
    (hcompanion : ∀ b : Body, (f b).companion = b.companion)
    (hdepth : ∀ b c, c.IsDepthOf b → (f c).IsDepthOf (f b))
    (hchanged : ∀ k, k = key ∨ s.Owns key k → s'.body? k = (s.body? k).map f)
    (hothers : ∀ k, k ≠ key → ¬ s.Owns key k → s'.body? k = s.body? k) (hstored : s'.Stored)
    (hslots : s'.slots? = s.slots?) (hnext : s'.nextTarget = s.nextTarget) : Locked s s' := by
  -- Whether a target is changed or not, it keeps its companion.
  have hbodies (k : TargetKey) : s'.body? k = (s.body? k).map f ∨ s'.body? k = s.body? k := by
    by_cases hk : k = key ∨ s.Owns key k
    · exact .inl (hchanged k hk)
    · rw [not_or] at hk
      exact .inr (hothers k hk.1 hk.2)
  have howns : s'.Owns = s.Owns := by
    funext k own
    refine propext ?_
    unfold Owns
    rcases hbodies k with hk | hk <;> rw [hk]
    cases hb : s.body? k with
    | none => simp
    | some b => simp [hcompanion]
  have hprincipal (k : TargetKey) (hk : s.IsPrincipal k) : s'.IsPrincipal k :=
    ⟨hnext ▸ hk.there, howns ▸ hk.unowned⟩
  refine ⟨⟨fun k b own hb hown => ?_, howns ▸ h.sole, hstored, ?_⟩, hprincipal⟩
  · have hk : s.Owns k own := howns ▸ ⟨b, hb, hown⟩
    by_cases hchange : k = key
    · rw [hchanged k (.inl hchange)] at hb
      obtain ⟨b₀, hb₀, rfl⟩ := Option.map_eq_some_iff.1 hb
      rw [hcompanion] at hown
      obtain ⟨c, hc, hcdepth⟩ := h.companion k b₀ own hb₀ hown
      refine ⟨f c, ?_, hdepth b₀ c hcdepth⟩
      rw [hchanged own (.inr (hchange ▸ hk)), hc]
      rfl
    · have hunowned : ¬ s.Owns key k := fun hkeyk => h.not_owns hkeyk own hk
      rw [hothers k hchange hunowned] at hb
      obtain ⟨c, hc, hcdepth⟩ := h.companion k b own hb hown
      refine ⟨c, ?_, hcdepth⟩
      rw [hothers own (fun e => hkey.unowned k (e ▸ hk))
        fun hkeyown => hchange (h.sole k key own hk hkeyown)]
      exact hc
  · rw [hslots]
    exact fun k slots hk slot hslot => hprincipal slot (h.slots k slots hk slot hslot)

/-- Targets have textures of their own. -/
theorem Owned.body_ownTexture (hs : s.Owned) {key' : TargetKey} {b b' : Body}
    (hb : s.body? key = some b) (hb' : s.body? key' = some b')
    (hname : b.texture.name = b'.texture.name) : key = key' := by
  obtain ⟨t, ht, rfl⟩ := body?_eq_some hb
  obtain ⟨t', ht', rfl⟩ := body?_eq_some hb'
  exact hs.ownTexture key key' _ _ (frame?_of_target? ht) (frame?_of_target? ht') hname

/-! ### Changes -/

theorem respecified_owning (ht : s.target? key = some t) (hfreed : t.freed = false)
    (hdata : checkData t.tag t.info size t.layers data = .ok ()) :
    Owning s (s.respecified key t size data) :=
  (respecify_moves permitsContents_owning key size data).of_run (respecify_ok ht hfreed hdata)

theorem stored_respecified (hs : s.Owned) (h : s.Stored) (ht : s.target? key = some t) :
    (s.respecified key t size data).Stored := by
  intro key' b hb hfreed
  rw [body?_respecified] at hb
  by_cases hkey : key = key'
  · subst hkey
    rw [if_pos rfl, body?_of_target? ht] at hb
    cases hb
    refine (textureSize?_respecified ..).trans ((if_pos rfl).trans ?_)
    exact congrArg (Option.map _) (h key _ (body?_of_target? ht) hfreed)
  · rw [if_neg hkey] at hb
    have hname : t.texture.name ≠ b.texture.name := fun hname =>
      hkey (hs.body_ownTexture (body?_of_target? ht) hb hname)
    rw [textureSize?_respecified, if_neg hname]
    exact h key' b hb hfreed

theorem owns_iff (ht : s.target? key = some t) :
    s.Owns key own ↔ t.companion.ownedKey? = some own := by
  unfold Owns
  rw [body?_of_target? ht]
  simp [Target.body]

/-- The companion of a target that is there is there as well. -/
theorem Lockstep.exists_companion (h : s.Lockstep) (ht : s.target? key = some t)
    (hown : t.companion.ownedKey? = some own) :
    own ≠ key ∧ ∃ c, s.target? own = some c ∧ c.freed = t.freed := by
  have howns := (owns_iff ht).2 hown
  obtain ⟨b, hb, hdepth⟩ := h.companion key t.body own (body?_of_target? ht) hown
  obtain ⟨c, hc, rfl⟩ := body?_eq_some hb
  refine ⟨?_, c, hc, hdepth.freed⟩
  rintro rfl
  exact h.not_owns howns _ howns

/-- A change of a principal target. -/
theorem update_locks (hP : P key) (size : UInt32 × UInt32) (data : Option PixelData) :
    Attempt.Moves (Locks P)
      (update key size data : Attempt DrawError (Store State) Unit) := by
  intro s hs h hprincipal
  have hkey := hprincipal key hP
  have howned : ((update key size data).run s).2.Owned :=
    update_moves permitsContents_owning key size data s hs
  refine ⟨howned, ?_⟩
  rcases hrun : (update key size data).run s with ⟨e | ⟨⟩, s'⟩
  -- A target that is not freed has its companion, so all that can be wrong is the data.
  · rcases update_error hrun with rfl | ⟨t, own, ht, hfreed, -, hown, hgone, -⟩
    · exact h.locked
    · obtain ⟨-, c, hc, hcfreed⟩ := h.exists_companion ht hown
      rw [hgone c hc, hfreed] at hcfreed
      cases hcfreed
  obtain ⟨t, ht, hfreed, hdata, ⟨halone, rfl⟩ | ⟨own, c, hown, hc, hcfreed, rfl⟩⟩ :=
    update_eq_ok hrun
  -- Without a companion of its own the target alone is resized.
  · refine h.together (f := (·.resized size)) hkey (fun _ => rfl)
      (fun _ _ hdepth => hdepth.resized size) (fun k hk => ?_) (fun k hk _ => ?_)
      (stored_respecified hs h.stored ht) rfl (nextTarget_modifyTarget ..)
    · rcases hk with rfl | hk
      · rw [body?_respecified, if_pos rfl]
      · rw [owns_iff ht, halone] at hk
        cases hk
    · rw [body?_respecified, if_neg (Ne.symm hk)]
  -- With one, the target is resized first and then the companion.
  · obtain ⟨hne, -⟩ := h.exists_companion ht hown
    refine h.together (f := (·.resized size)) hkey (fun _ => rfl)
      (fun _ _ hdepth => hdepth.resized size) (fun k hk => ?_) (fun k hk howns => ?_)
      (stored_respecified (respecified_owning ht hfreed hdata hs)
        (stored_respecified hs h.stored ht) hc) rfl
      ((nextTarget_modifyTarget ..).trans (nextTarget_modifyTarget ..))
    · rcases hk with rfl | hk
      · rw [body?_respecified, if_neg hne, body?_respecified, if_pos rfl]
      · rw [owns_iff ht, hown] at hk
        cases hk
        rw [body?_respecified, if_pos rfl, body?_respecified, if_neg (Ne.symm hne)]
    · have hk' : own ≠ k := fun e => howns ((owns_iff ht).2 (e ▸ hown))
      rw [body?_respecified, if_neg hk', body?_respecified, if_neg (Ne.symm hk)]

/-! ### Ends -/

theorem stored_released (hs : s.Owned) (h : s.Stored) (ht : s.target? key = some t)
    (hend : Released key t s s') : s'.Stored := by
  intro key' b hb hfreed
  rw [hend.body? ht] at hb
  by_cases hkey : key' = key
  · rw [if_pos hkey] at hb
    obtain ⟨_, -, rfl⟩ := Option.map_eq_some_iff.1 hb
    cases hfreed
  · rw [if_neg hkey] at hb
    have hname : b.texture.name ≠ t.texture.name := fun hname =>
      hkey (hs.body_ownTexture hb (body?_of_target? ht) hname)
    rw [hend.textureSize?, if_neg hname]
    exact h key' b hb hfreed

theorem Released.slots? (hend : Released key t s s') : s'.slots? = s.slots? :=
  slots?_of_stories hend.stories

theorem Released.nextTarget (hend : Released key t s s') : s'.nextTarget = s.nextTarget := by
  unfold Store.nextTarget
  rw [← Table.length_keys, hend.keys, Table.length_keys]

/-- The end of a principal target that owns nothing. -/
theorem Lockstep.released (h : s.Lockstep) (hs : s.Owned) (hkey : s.IsPrincipal key)
    (ht : s.target? key = some t) (halone : t.companion.ownedKey? = none)
    (hend : Released key t s s') : Locked s s' := by
  refine h.together (f := Body.released) hkey (fun _ => rfl)
    (fun _ _ hdepth => hdepth.released) (fun k hk => ?_) (fun k hk _ => ?_)
    (stored_released hs h.stored ht hend) hend.slots? hend.nextTarget
  · rcases hk with rfl | hk
    · rw [hend.body? ht, if_pos rfl]
    · rw [owns_iff ht, halone] at hk
      cases hk
  · rw [hend.body? ht, if_neg hk]

/-- A principal target may be freed. -/
theorem free_locks (hP : P key) :
    Moves (Locks P) (free key : StateM (Store State) Unit) := by
  intro s hs h hprincipal
  have hkey := hprincipal key hP
  refine ⟨free_owning key s hs, ?_⟩
  -- Freeing a target a second time does nothing.
  by_cases hgone : ∀ t, s.target? key = some t → t.freed = true
  · rw [run_free_gone hgone]
    exact h.locked
  obtain ⟨t, ht, hfreed⟩ : ∃ t, s.target? key = some t ∧ t.freed = false := by
    simpa using hgone
  rcases hown : t.companion.ownedKey? with _ | own
  · obtain ⟨s', hrun, hend⟩ := run_free_alone ht hfreed (by simp [hown])
    rw [hrun]
    exact h.released hs hkey ht hown hend
  -- The companion goes first, and the target finds it in lockstep when both are gone.
  obtain ⟨hne, c, hc, hcfreed⟩ := h.exists_companion ht hown
  obtain ⟨s₁, s', hrun, hfirst, hend⟩ := run_free_owner ht hfreed hown hne hc (hcfreed.trans hfreed)
  rw [hrun]
  have ht₁ : s₁.target? key = some t := by rw [hfirst.target, if_neg (Ne.symm hne), ht]
  refine h.together (f := Body.released) hkey (fun _ => rfl)
    (fun _ _ hdepth => hdepth.released) (fun k hk => ?_) (fun k hk howns => ?_)
    (stored_released (hs.released hfirst hc) (stored_released hs h.stored hc hfirst) ht₁ hend)
    (hend.slots?.trans hfirst.slots?) (hend.nextTarget.trans hfirst.nextTarget)
  · rcases hk with rfl | hk
    · rw [hend.body? ht₁, if_pos rfl, hfirst.body? hc, if_neg (Ne.symm hne)]
    · rw [owns_iff ht, hown] at hk
      cases hk
      rw [hend.body? ht₁, if_neg hne, hfirst.body? hc, if_pos rfl]
  · have hk' : k ≠ own := fun e => howns ((owns_iff ht).2 (e ▸ hown))
    rw [hend.body? ht₁, if_neg hk, hfirst.body? hc, if_neg hk']

/-! ### New targets -/

/-- A new target is principal, and what it owns has been made for it. -/
theorem Lockstep.planted (h : s.Lockstep) (hs : s.WellFormed) (hnew : Planted d companion s s')
    (hcompanion : ∀ own, companion.ownedKey? = some own → s.IsPrincipal own ∧
      (∃ c, s.body? own = some c ∧
        c.IsDepthOf (d.body s.nextTarget (s.device.lastName + 1) companion)) ∧
      ∀ key slots, s.slots? key = some slots → own ∉ slots) :
    s'.Lockstep ∧ s'.IsPrincipal s.nextTarget ∧
      ∀ key, s.IsPrincipal key → companion.ownedKey? ≠ some key → s'.IsPrincipal key := by
  -- Nothing but the new target owns more than before.
  have howns (key own : TargetKey) : s'.Owns key own ↔
      key = s.nextTarget ∧ companion.ownedKey? = some own ∨ s.Owns key own := by
    unfold Owns
    rw [hnew.body]
    by_cases hkey : key = s.nextTarget
    · rw [if_pos hkey, hkey, hs.body?_nextTarget]
      simp [TargetDescription.body, TargetDescription.target, Target.body]
    · rw [if_neg hkey]
      simp [hkey]
  have hprincipal (key : TargetKey) (hkey : s.IsPrincipal key)
      (hne : companion.ownedKey? ≠ some key) : s'.IsPrincipal key := by
    refine ⟨hnew.nextTarget ▸ Nat.lt_succ_of_lt hkey.there, fun owner howner => ?_⟩
    rcases (howns _ _).1 howner with ⟨-, hown⟩ | hown
    · exact hne hown
    · exact hkey.unowned owner hown
  refine ⟨⟨?companion, ?sole, ?stored, ?slots⟩, ?new, hprincipal⟩
  case companion =>
    intro key b own hb hown
    rw [hnew.body] at hb
    split at hb
    · cases hb
      obtain ⟨-, ⟨c, hc, hdepth⟩, -⟩ := hcompanion own hown
      exact ⟨c, hnew.kept hs hc, hdepth⟩
    · obtain ⟨c, hc, hdepth⟩ := h.companion key b own hb hown
      exact ⟨c, hnew.kept hs hc, hdepth⟩
  case sole =>
    intro key key' own hkey hkey'
    rcases (howns _ _).1 hkey with ⟨rfl, hown⟩ | hold <;>
      rcases (howns _ _).1 hkey' with ⟨rfl, hown'⟩ | hold'
    · rfl
    · exact absurd hold' ((hcompanion own hown).1.unowned key')
    · exact absurd hold ((hcompanion own hown').1.unowned key)
    · exact h.sole key key' own hold hold'
  case stored =>
    intro key b hb hfreed
    rw [hnew.body] at hb
    rw [hnew.extents]
    split at hb
    · cases hb
      exact if_pos rfl
    · have hstored := h.stored key b hb hfreed
      -- A texture that is stored already is not the new one.
      rw [if_neg, hstored]
      intro hname
      rw [hname, hs.textureSize?_next] at hstored
      cases hstored
  case slots =>
    intro key slots hslots slot hslot
    rw [hnew.slots] at hslots
    exact hprincipal slot (h.slots key slots hslots slot hslot) fun hown =>
      (hcompanion slot hown).2.2 key slots hslots hslot
  case new =>
    refine ⟨hnew.nextTarget ▸ Nat.lt_succ_self _, fun owner howner => ?_⟩
    have hnone := hs.body?_nextTarget
    -- What is owned has been made before its owner, and the new target had not.
    rcases (howns _ _).1 howner with ⟨-, hown⟩ | ⟨b, hb, hown⟩
    · obtain ⟨-, ⟨c, hc, -⟩, -⟩ := hcompanion _ hown
      rw [hnone] at hc
      cases hc
    · obtain ⟨c, hc, -⟩ := h.companion owner b _ hb hown
      rw [hnone] at hc
      cases hc

/-- A new target that owns nothing. -/
theorem Lockstep.planted_alone (h : s.Lockstep) (hs : s.WellFormed)
    (hnew : Planted d companion s s') (halone : companion.ownedKey? = none) :
    Locked s s' ∧ s'.IsPrincipal s.nextTarget := by
  obtain ⟨hlock, hnext, hprincipal⟩ := h.planted hs hnew (by simp [halone])
  exact ⟨⟨hlock, fun key hkey => hprincipal key hkey (by simp [halone])⟩, hnext⟩

/-- However the making of a target ends, the store is in lockstep, and a target that has been made
is principal. -/
theorem create_locked {result : Except DrawError TargetKey} (hs : s.Owned) (h : s.Lockstep)
    (hrun : (create d).run s = (result, s')) :
    Locked s s' ∧ ∀ key, result = .ok key → s'.IsPrincipal key := by
  cases create_made hs hrun with
  | refused hsteady => exact ⟨hsteady.locked h, nofun⟩
  | alone hown hnew =>
    obtain ⟨hlocked, hnext⟩ := h.planted_alone hs.toWellFormed hnew d.ownedKey?_lent
    exact ⟨hlocked, fun key hkey => by cases hkey; exact hnext⟩
  | @paired s₁ hown hfirst hs₁ hnew =>
    obtain ⟨hlocked, hnext⟩ := h.planted_alone hs.toWellFormed hfirst rfl
    obtain ⟨hlock, hnext', hprincipal⟩ := hlocked.lockstep.planted hs₁.toWellFormed hnew <| by
      rintro _ ⟨⟩
      refine ⟨hnext, ⟨_, (hfirst.body _).trans (if_pos rfl), rfl, rfl, rfl, rfl, rfl, rfl⟩, ?_⟩
      -- The slots of stories were there before.
      intro key slots hslots hmem
      rw [hfirst.slots] at hslots
      exact Nat.lt_irrefl _ (h.slots key slots hslots _ hmem).there
    refine ⟨⟨hlock, fun key hkey => ?_⟩, fun key hkey => by cases hkey; exact hnext'⟩
    refine hprincipal key (hlocked.principal key hkey) ?_
    rintro ⟨⟩
    exact Nat.lt_irrefl _ hkey.there
  | @undone e s₁ c hown hfirst hs₁ hc hend =>
    obtain ⟨hlocked, hnext⟩ := h.planted_alone hs.toWellFormed hfirst rfl
    have hcbody := (body?_of_target? hc).symm.trans ((hfirst.body _).trans (if_pos rfl))
    injection hcbody with hcbody
    have halone : c.companion.ownedKey? = none :=
      congrArg (Companion.ownedKey? ∘ Body.companion) hcbody
    exact ⟨hlocked.trans (hlocked.lockstep.released hs₁ hnext hc halone hend), nofun⟩

/-- Targets made one after the other. -/
theorem mapM_create_locked {n : Nat} {result : Except DrawError (List TargetKey)} (hs : s.Owned)
    (h : s.Lockstep) (hrun : ((List.replicate n d).mapM create).run s = (result, s')) :
    s'.Owned ∧ Locked s s' ∧ ∀ keys, result = .ok keys → ∀ key ∈ keys, s'.IsPrincipal key := by
  obtain ⟨⟨-, hs', hlocked, -⟩, hmade⟩ := mapM_create_rule (d := d)
    (P := fun s₁ keys => s₁.Owned ∧ Locked s s₁ ∧ ∀ key ∈ keys, s₁.IsPrincipal key)
    (fun s₁ s₂ keys result ⟨hs₁, hlocked, hkeys⟩ hrun => by
      obtain ⟨hlocked', hnew⟩ := create_locked hs₁ hlocked.lockstep hrun
      have hs₂ := (create_owning d).of_run hrun hs₁
      have hkeys' (key : TargetKey) (hkey : key ∈ keys) := hlocked'.principal key (hkeys key hkey)
      refine ⟨fun _ _ => ⟨hs₂, hlocked.trans hlocked', hkeys'⟩,
        fun key hkey => ⟨hs₂, hlocked.trans hlocked', ?_⟩⟩
      simpa using fun key' hkey' => hkey'.elim (hkeys' key') fun e => e ▸ hnew key hkey)
    [] ⟨hs, h.locked, nofun⟩ hrun
  exact ⟨hs', hlocked, fun keys hkeys => (hmade keys hkeys).2.2⟩

theorem slots?_addStory (s : Store State) (story : Story) (key : StoryKey) :
    (s.addStory story).2.slots? key =
      if key = ⟨s.stories.size⟩ then some ↑story.slots else s.slots? key := by
  refine (congrArg (Option.map _) (Table.get?_insert ..)).trans ?_
  by_cases hkey : key = ⟨s.stories.size⟩
  · rw [if_pos hkey, if_pos hkey.symm]
    rfl
  · rw [if_neg hkey, if_neg (Ne.symm hkey)]
    rfl

/-- The slots of a new story are principal. -/
theorem Lockstep.addStory (h : s.Lockstep) {story : Story}
    (hslots : ∀ slot ∈ story.slots, s.IsPrincipal slot) : Locked s (s.addStory story).2 := by
  have hprincipal (key : TargetKey) (hkey : s.IsPrincipal key) :
      (s.addStory story).2.IsPrincipal key := ⟨hkey.there, hkey.unowned⟩
  refine ⟨⟨h.companion, h.sole, h.stored, fun key slots hkey slot hslot => hprincipal slot ?_⟩,
    hprincipal⟩
  rw [slots?_addStory] at hkey
  split at hkey
  · cases hkey
    exact hslots slot (Multiset.mem_coe.1 hslot)
  · exact h.slots key slots hkey slot hslot

/-- A single target that has been made for a tag is principal. -/
theorem make_locked {spec : TargetSpec} {result : Except DrawError Entry} (hs : s.Owned)
    (h : s.Lockstep) (hrun : (Registry.make spec d).run s = (result, s')) :
    Locked s s' ∧ ∀ key, result = .ok (.single key) → s'.IsPrincipal key := by
  cases result with
  | error e =>
    exact ⟨(mapM_create_locked hs h (Registry.run_make_error.1 hrun)).2.1, nofun⟩
  | ok entry =>
    obtain ⟨keys, s₁, hkeys, hmade⟩ := run_make_ok hs.toWellFormed hrun
    obtain ⟨-, hlocked, hprincipal⟩ := mapM_create_locked hs h hkeys
    rcases hmade with ⟨key, rfl, rfl, rfl⟩ | ⟨story, rfl, rfl, rfl⟩
    · refine ⟨hlocked, fun key hkey => ?_⟩
      cases hkey
      exact hprincipal _ rfl key (List.mem_singleton_self key)
    · exact ⟨hlocked.trans (hlocked.lockstep.addStory (hprincipal _ rfl)), nofun⟩

end Store

end DrawPass
