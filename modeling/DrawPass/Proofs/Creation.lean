/-
DrawPass/Proofs/Creation.lean

What the making of a target leaves behind, step by step.

On the device in memory the only step of `Store.create` that fails by itself is the
making of a texture, and the device can be told after how many textures it is to fail.
So whether a target is made, and what is left if it is not, is a matter of two numbers:
the textures that the target needs (`TargetDescription.textures`) and the textures that
the device still grants.  `create_ok` and `create_error` say it exactly: a target that
gets all its textures adds them and nothing else, and one that does not adds nothing.
-/
import DrawPass.Proofs.Release
import DrawPass.Proofs.WellFormed

namespace DrawPass

open Gl Software

/-- The target after its storage has been specified anew. -/
def Target.resized (t : Target) (size : UInt32 × UInt32) : Target :=
  { t with size, mipsStale := true }

namespace TargetDescription

/-- How many textures a target needs: its own, and that of a companion of its own. -/
def textures (d : TargetDescription) : Nat := if d.depth.isNone && d.withDepth then 2 else 1

theorem textures_pos (d : TargetDescription) : 0 < d.textures := by
  unfold textures
  split <;> omega

end TargetDescription

namespace Store

/-! ### New storage -/

/-- The store after the storage of a target has been specified anew. -/
def respecified (s : Store State) (key : TargetKey) (t : Target) (size : UInt32 × UInt32)
    (data : Option PixelData) : Store State :=
  (perform (.texImage t.texture.name t.info.layout size.1 size.2 t.layers
    (data.map PixelData.bytes)) s).2.modifyTarget key (·.resized size)

section

variable {s : Store State} {key : TargetKey} {t : Target} {size : UInt32 × UInt32}
  {data : Option PixelData}

@[simp] theorem targets_respecified :
    (s.respecified key t size data).targets = s.targets.modify key (·.resized size) := rfl

@[simp] theorem stories_respecified : (s.respecified key t size data).stories = s.stories := rfl

@[simp] theorem textures_respecified :
    (s.respecified key t size data).device.textures.keys = s.device.textures.keys :=
  Table.keys_modify ..

@[simp] theorem failTextureAfter_respecified :
    (s.respecified key t size data).device.failTextureAfter = s.device.failTextureAfter := rfl

@[simp] theorem lastName_respecified :
    (s.respecified key t size data).device.lastName = s.device.lastName := rfl

theorem respecify_ok (ht : s.target? key = some t) (hfreed : t.freed = false)
    (hdata : checkData t.tag t.info size t.layers data = .ok ()) :
    (respecify key size data).run s = (.ok (), s.respecified key t size data) := by
  unfold respecify
  rw [Attempt.run_bind_ok (run_usable_eq_ok.2 ⟨rfl, ht, hfreed⟩)]
  have hcheck : (liftM (checkData t.tag t.info size t.layers data) :
      Attempt DrawError (Store State) Unit).run s = (.ok (), s) := by
    rw [hdata]
    rfl
  rw [Attempt.run_bind_ok hcheck, Attempt.run_bind_ok (Attempt.run_perform ..)]
  rfl

/-- A refusal comes before anything is done. -/
theorem respecify_error (h : ¬ ∃ t, s.target? key = some t ∧ t.freed = false ∧
      checkData t.tag t.info size t.layers data = .ok ()) :
    ∃ e, (respecify key size data).run s = (.error e, s) := by
  unfold respecify
  rcases hu : (usable key).run s with ⟨e | t, s'⟩
  · have hs' : s' = s := by
      rw [run_usable] at hu
      exact (congrArg Prod.snd hu).symm
    exact ⟨e, by rw [Attempt.run_bind_error hu, hs']⟩
  · obtain ⟨rfl, ht, hfreed⟩ := run_usable_eq_ok.1 hu
    rw [Attempt.run_bind_ok hu]
    have hcheck : (liftM (checkData t.tag t.info size t.layers data) :
        Attempt DrawError (Store State) Unit).run s' =
          (checkData t.tag t.info size t.layers data, s') := Attempt.run_ofExcept _ s'
    rcases hdata : checkData t.tag t.info size t.layers data with e | _ <;> rw [hdata] at hcheck
    · exact ⟨e, Attempt.run_bind_error hcheck⟩
    · exact absurd ⟨t, ht, hfreed, hdata⟩ h

/-- Without a companion of its own a target is all that changes. -/
theorem update_alone (ht : s.target? key = some t) (hfreed : t.freed = false)
    (hdata : checkData t.tag t.info size t.layers data = .ok ())
    (hcompanion : t.companion.ownedKey? = none) :
    (update key size data).run s = (.ok (), s.respecified key t size data) := by
  unfold update
  rw [Attempt.run_bind_ok (run_usable_eq_ok.2 ⟨rfl, ht, hfreed⟩),
    Attempt.run_bind_ok (respecify_ok ht hfreed hdata), hcompanion]
  rfl

/-- An owned companion is changed after its target. -/
theorem update_owner (ht : s.target? key = some t) (hfreed : t.freed = false)
    (hdata : checkData t.tag t.info size t.layers data = .ok ()) {companion : TargetKey}
    (hcompanion : t.companion.ownedKey? = some companion) :
    (update key size data).run s =
      (respecify companion size none).run (s.respecified key t size data) := by
  unfold update
  rw [Attempt.run_bind_ok (run_usable_eq_ok.2 ⟨rfl, ht, hfreed⟩),
    Attempt.run_bind_ok (respecify_ok ht hfreed hdata), hcompanion]

theorem target?_respecified (s : Store State) (key : TargetKey) (t : Target)
    (size : UInt32 × UInt32) (data : Option PixelData) (key' : TargetKey) :
    (s.respecified key t size data).target? key' =
      if key = key' then (s.target? key').map (·.resized size) else s.target? key' :=
  Table.get?_modify ..

theorem target?_respecified_self (ht : s.target? key = some t) :
    (s.respecified key t size data).target? key = some (t.resized size) := by
  rw [target?_respecified, if_pos rfl, ht]
  rfl

/-- No target is lost, and nothing but a size changes. -/
theorem exists_target?_respecified {own : TargetKey} {c : Target} (hc : s.target? own = some c) :
    ∃ c', (s.respecified key t size data).target? own = some c' ∧
      (c' = c ∨ c' = c.resized size) := by
  rw [target?_respecified, hc]
  split
  · exact ⟨_, rfl, .inr rfl⟩
  · exact ⟨_, rfl, .inl rfl⟩

theorem target?_respecified_eq_some {own : TargetKey} {c : Target}
    (hc : (s.respecified key t size data).target? own = some c) :
    ∃ c₀, s.target? own = some c₀ ∧ (c = c₀ ∨ c = c₀.resized size) := by
  rw [target?_respecified] at hc
  split at hc
  · obtain ⟨c₀, hc₀, rfl⟩ := Option.map_eq_some_iff.1 hc
    exact ⟨c₀, hc₀, .inr rfl⟩
  · exact ⟨c, hc, .inl rfl⟩

/-- A target whose companion has been freed under it has changed by the time of the refusal. -/
theorem update_half (ht : s.target? key = some t) (hfreed : t.freed = false)
    (hdata : checkData t.tag t.info size t.layers data = .ok ()) {own : TargetKey}
    (hown : t.companion.ownedKey? = some own)
    (hgone : ∀ c, s.target? own = some c → c.freed = true) :
    ∃ e, (update key size data).run s = (.error e, s.respecified key t size data) := by
  rw [update_owner ht hfreed hdata hown]
  refine respecify_error ?_
  rintro ⟨c, hc, hcfreed, -⟩
  obtain ⟨c₀, hc₀, hsame⟩ := target?_respecified_eq_some hc
  have hlive : c₀.freed = false := by rcases hsame with rfl | rfl <;> exact hcfreed
  exact Bool.false_ne_true (hlive.symm.trans (hgone c₀ hc₀))

/-- There is no other way for a change to be refused once it has begun. -/
theorem update_error {e : DrawError} {s' : Store State}
    (h : (update key size data).run s = (.error e, s')) : s' = s ∨
    ∃ t own, s.target? key = some t ∧ t.freed = false ∧
      checkData t.tag t.info size t.layers data = .ok () ∧ t.companion.ownedKey? = some own ∧
      (∀ c, s.target? own = some c → c.freed = true) ∧ s' = s.respecified key t size data := by
  by_cases hgood : ∃ t, s.target? key = some t ∧ t.freed = false ∧
      checkData t.tag t.info size t.layers data = .ok ()
  · obtain ⟨t, ht, hfreed, hdata⟩ := hgood
    rcases hown : t.companion.ownedKey? with _ | own
    · rw [update_alone ht hfreed hdata hown] at h
      cases h
    by_cases hgone : ∀ c, s.target? own = some c → c.freed = true
    · obtain ⟨e', hrun⟩ := update_half ht hfreed hdata hown hgone
      rw [hrun] at h
      exact .inr ⟨t, own, ht, hfreed, hdata, hown, hgone, (congrArg Prod.snd h).symm⟩
    -- The companion may be the target itself, which has just been changed, but that freed nothing.
    · simp only [Classical.not_forall, Bool.not_eq_true] at hgone
      obtain ⟨c, hc, hcfreed⟩ := hgone
      obtain ⟨c', hc', heq⟩ := exists_target?_respecified hc
      have hcfreed' : c'.freed = false := by rcases heq with rfl | rfl <;> exact hcfreed
      rw [update_owner ht hfreed hdata hown, respecify_ok hc' hcfreed' rfl] at h
      cases h
  -- What is refused before it begins leaves the store alone.
  · left
    unfold update at h
    rcases hu : (usable key).run s with ⟨e' | t, s₁⟩
    · rw [Attempt.run_bind_error hu] at h
      rw [run_usable] at hu
      exact (congrArg Prod.snd h).symm.trans (congrArg Prod.snd hu).symm
    · obtain ⟨rfl, -, -⟩ := run_usable_eq_ok.1 hu
      obtain ⟨e', hrun⟩ := respecify_error hgood
      rw [Attempt.run_bind_ok hu, Attempt.run_bind_error hrun] at h
      exact (congrArg Prod.snd h).symm

/-- A change that goes through specifies the storage of the target, and that of a companion of its
own, and nothing else. -/
theorem update_eq_ok {s' : Store State} (h : (update key size data).run s = (.ok (), s')) :
    ∃ t, s.target? key = some t ∧ t.freed = false ∧
      checkData t.tag t.info size t.layers data = .ok () ∧
      ((t.companion.ownedKey? = none ∧ s' = s.respecified key t size data) ∨
        ∃ own c, t.companion.ownedKey? = some own ∧
          (s.respecified key t size data).target? own = some c ∧ c.freed = false ∧
          s' = (s.respecified key t size data).respecified own c size none) := by
  -- Whatever keeps the target from being specified refuses the whole change.
  have hgood : ∃ t, s.target? key = some t ∧ t.freed = false ∧
      checkData t.tag t.info size t.layers data = .ok () := by
    refine Classical.byContradiction fun hbad => ?_
    obtain ⟨e, hrefused⟩ := respecify_error hbad
    unfold update at h
    rw [Attempt.run_bind_eq_ok] at h
    obtain ⟨t, s₁, husable, h⟩ := h
    obtain ⟨rfl, -, -⟩ := run_usable_eq_ok.1 husable
    rw [Attempt.run_bind_error hrefused] at h
    cases h
  obtain ⟨t, ht, hfreed, hdata⟩ := hgood
  refine ⟨t, ht, hfreed, hdata, ?_⟩
  rcases hown : t.companion.ownedKey? with _ | own
  · rw [update_alone ht hfreed hdata hown] at h
    cases h
    exact .inl ⟨rfl, rfl⟩
  · rw [update_owner ht hfreed hdata hown] at h
    by_cases hc : ∃ c, (s.respecified key t size data).target? own = some c ∧ c.freed = false
    · obtain ⟨c, hc, hcfreed⟩ := hc
      rw [respecify_ok hc hcfreed rfl] at h
      cases h
      exact .inr ⟨own, c, rfl, hc, hcfreed, rfl⟩
    · obtain ⟨e, hrefused⟩ := @respecify_error (s.respecified key t size data) own size none
        fun ⟨c, hlook, hcfreed, _⟩ => hc ⟨c, hlook, hcfreed⟩
      rw [hrefused] at h
      cases h

end

/-! ### Textures made and taken back -/

/-- Textures have been made, and targets for them; what there was before is as it was. -/
structure Created (s s' : Store State) (names : List Name) : Prop where
  textures : s'.device.textures.keys = s.device.textures.keys ++ names
  stories : s'.stories = s.stories
  targets : ∀ key ∈ s.targets.keys, s'.target? key = s.target? key

variable {s s' s'' : Store State} {names names' : List Name}

theorem Created.refl (s : Store State) : Created s s [] :=
  ⟨(List.append_nil _).symm, rfl, fun _ _ => rfl⟩

theorem Created.trans (h : Created s s' names) (h' : Created s' s'' names') :
    Created s s'' (names ++ names') where
  textures := by rw [h'.textures, h.textures, List.append_assoc]
  stories := h'.stories.trans h.stories
  targets key hkey := by
    have hkey' : key ∈ s'.targets.keys :=
      Table.mem_keys_iff.2 ((congrArg Option.isSome (h.targets key hkey)).trans
        (Table.mem_keys_iff.1 hkey))
    rw [h'.targets key hkey', h.targets key hkey]

/-- The store whose device has made one texture more. -/
def withTexture (s : Store State) : Store State :=
  { s with device := { s.device with
    failTextureAfter := s.device.failTextureAfter.map (· - 1)
    lastName := s.device.lastName + 1
    textures := s.device.textures.insert (s.device.lastName + 1) Texture.empty
    log := .createTexture (s.device.lastName + 1) :: s.device.log } }

/-- The device makes a texture as long as it is not told to fail. -/
theorem createTexture_granted (h : s.device.failTextureAfter ≠ some 0) :
    s.device.createTexture = (.ok (s.device.lastName + 1), s.withTexture.device) := by
  unfold State.createTexture
  split
  · exact absurd ‹_› h
  · rfl

theorem run_createTexture_ok (h : s.device.failTextureAfter ≠ some 0) :
    (Attempt.perform .createTexture : Attempt DrawError (Store State) _).run s =
      (.ok (.ok (s.device.lastName + 1)), s.withTexture) :=
  congrArg (fun p : Except String Name × State =>
    ((.ok p.1 : Except DrawError _), ({ s with device := p.2 } : Store State)))
    (createTexture_granted h)

/-- The store whose device has used up the failure that it was armed with. -/
def disarmed (s : Store State) : Store State :=
  { s with device := { s.device with failTextureAfter := none } }

theorem keeps_disarmed (s : Store State) : Keeps s s.disarmed := fun h =>
  ⟨h.of_eq ⟨h.numbered.textures, h.numbered.framebuffers, h.numbered.buffers, h.numbered.fences⟩
    rfl rfl, Nat.le_refl _⟩

theorem run_createTexture_error (h : s.device.failTextureAfter = some 0) :
    (Attempt.perform .createTexture : Attempt DrawError (Store State) _).run s =
      (.ok (.error "texture creation failed"), s.disarmed) := by
  have hdevice : s.device.createTexture = (.error "texture creation failed", s.disarmed.device) := by
    unfold State.createTexture
    rw [h]
    rfl
  exact congrArg (fun p => (Except.ok p.1, ({ s with device := p.2 } : Store State))) hdevice

theorem target?_addTarget (s : Store State) (t : Target) (key : TargetKey) :
    (s.addTarget t).target? key = if t.texture.key = key then some t else s.target? key :=
  Table.get?_insert ..

/-- A texture has been made, and a target around it. -/
structure Added (d : TargetDescription) (companion : Companion) (s s' : Store State) : Prop where
  device : s'.device = (s.device.perform .createTexture).2
  textures : s'.device.textures.keys = s.device.textures.keys ++ [s.device.lastName + 1]
  framebuffers : s'.device.framebuffers = s.device.framebuffers
  buffers : s'.device.buffers = s.device.buffers
  lastName : s'.device.lastName = s.device.lastName + 1
  target : ∀ key, s'.target? key = if key = s.nextTarget
    then some (d.target s.nextTarget (s.device.lastName + 1) companion) else s.target? key
  stories : s'.stories = s.stories
  pending : s'.pending = s.pending
  delivered : s'.delivered = s.delivered
  clock : s'.clock = s.clock
  pollInterval : s'.pollInterval = s.pollInterval

/-- The store with one texture more and a target around it, which has no storage yet. -/
def withTarget (s : Store State) (d : TargetDescription) (companion : Companion) : Store State :=
  s.withTexture.addTarget (d.target s.nextTarget (s.device.lastName + 1) companion)

theorem added_withTarget (hs : s.WellFormed) (hgrant : s.device.failTextureAfter ≠ some 0)
    (d : TargetDescription) (companion : Companion) :
    Added d companion s (s.withTarget d companion) := by
  refine ⟨(congrArg Prod.snd (createTexture_granted hgrant)).symm, ?_, rfl, rfl, rfl,
    fun key => ?_, rfl, rfl, rfl, rfl, rfl⟩
  · refine (Table.keys_insert ..).trans (if_neg fun hmem => ?_)
    exact Nat.not_succ_le_self _ (hs.numbered.textures _ hmem)
  · refine (target?_addTarget ..).trans ?_
    by_cases hkey : key = s.nextTarget
    · exact (if_pos hkey.symm).trans (if_pos hkey).symm
    · exact (if_neg (Ne.symm hkey)).trans (if_neg hkey).symm

theorem keeps_withTarget (hgrant : s.device.failTextureAfter ≠ some 0) (d : TargetDescription)
    (companion : Companion) : Keeps s (s.withTarget d companion) := by
  have hcreate : Attempt.Moves Keeps (Attempt.perform .createTexture : Attempt DrawError _ _) :=
    permitsParts_keeps.perform .createTexture rfl
  exact IsTrans.trans (r := Keeps) s _ _ (hcreate.of_run (run_createTexture_ok hgrant))
    (permitsParts_keeps.addTarget _ _ rfl)

section

variable {d : TargetDescription} {companion : Companion}

/-- If the device grants a texture, a target is made once it has been given its storage. -/
theorem createWith_granted (hgrant : s.device.failTextureAfter ≠ some 0)
    (hupdate : (update s.nextTarget d.size d.data).run (s.withTarget d companion) = (.ok (), s')) :
    (createWith d companion).run s = (.ok s.nextTarget, s') := by
  unfold createWith
  rw [Attempt.run_bind_ok (run_createTexture_ok hgrant)]
  dsimp only
  rw [Attempt.run_bind_ok (Attempt.run_get _), Attempt.run_bind_ok (Attempt.run_modify _ _)]
  exact Attempt.run_bind_ok (Attempt.run_tryCatch_ok hupdate)

/-- A target that is refused its storage is freed. -/
theorem createWith_unstored {e : DrawError} (hgrant : s.device.failTextureAfter ≠ some 0)
    (hupdate : (update s.nextTarget d.size d.data).run (s.withTarget d companion) = (.error e, s'))
    (hfree : (free s.nextTarget : StateM (Store State) Unit) s' = ((), s'')) :
    (createWith d companion).run s = (.error e, s'') := by
  unfold createWith
  rw [Attempt.run_bind_ok (run_createTexture_ok hgrant)]
  dsimp only
  rw [Attempt.run_bind_ok (Attempt.run_get _), Attempt.run_bind_ok (Attempt.run_modify _ _)]
  refine Attempt.run_bind_error ?_
  exact (Attempt.run_tryCatch_error hupdate).trans (Attempt.run_bind_ok (Attempt.run_lift_ok hfree))

/-- If the device refuses the texture, there is no target. -/
theorem createWith_refused (hrefuse : s.device.failTextureAfter = some 0)
    (hown : companion.ownedKey? = none) :
    (createWith d companion).run s = (.error (.gl "texture creation failed"), s.disarmed) := by
  unfold createWith
  rw [Attempt.run_bind_ok (run_createTexture_error hrefuse)]
  simp only [hown]
  rfl

/-- A companion that was made before is freed. -/
theorem createWith_refused_owner (hrefuse : s.device.failTextureAfter = some 0) {own : TargetKey}
    (hfree : (free own : StateM (Store State) Unit) s.disarmed = ((), s')) :
    (createWith d (.owned own)).run s = (.error (.gl "texture creation failed"), s') := by
  unfold createWith
  rw [Attempt.run_bind_ok (run_createTexture_error hrefuse)]
  exact Attempt.run_bind_ok (Attempt.run_lift_ok hfree)

end

/-- A target that has the size already, and whose mip levels are stale, stays as it is. -/
theorem target?_respecified_same {key : TargetKey} {t : Target} {size : UInt32 × UInt32}
    {data : Option PixelData} (ht : s.target? key = some t) (hsize : t.resized size = t) :
    (s.respecified key t size data).target? = s.target? := by
  funext key'
  rw [target?_respecified]
  split
  · rename_i hkey
    rw [← hkey, ht, Option.map_some, hsize]
  · rfl

/-- A new target, with its companion, is given storage of the size that it has. -/
theorem update_same {key : TargetKey} {t : Target} {data : Option PixelData}
    (ht : s.target? key = some t) (hfreed : t.freed = false) (hstale : t.mipsStale = true)
    (hdata : checkData t.tag t.info t.size t.layers data = .ok ())
    (hcompanion : ∀ own, t.companion.ownedKey? = some own →
      ∃ c, s.target? own = some c ∧ c.freed = false ∧ c.resized t.size = c) :
    ∃ s', (update key t.size data).run s = (.ok (), s') ∧ Created s s' [] ∧
      s'.target? = s.target? ∧ s'.device.failTextureAfter = s.device.failTextureAfter := by
  have hsize : t.resized t.size = t := by
    unfold Target.resized
    rw [← hstale]
  have hown : (s.respecified key t t.size data).target? = s.target? :=
    target?_respecified_same ht hsize
  rcases hkey : t.companion.ownedKey? with _ | own
  · refine ⟨_, update_alone ht hfreed hdata hkey, ⟨?_, rfl, fun key _ => congrFun hown key⟩,
      hown, rfl⟩
    rw [textures_respecified, List.append_nil]
  · obtain ⟨c, hc, hcfreed, hcsize⟩ := hcompanion own hkey
    rw [← hown] at hc
    have hboth : ((s.respecified key t t.size data).respecified own c t.size none).target? =
        s.target? := (target?_respecified_same hc hcsize).trans hown
    refine ⟨_, (update_owner ht hfreed hdata hkey).trans (respecify_ok hc hcfreed rfl),
      ⟨?_, rfl, fun key _ => congrFun hboth key⟩, hboth, rfl⟩
    rw [textures_respecified, textures_respecified, List.append_nil]

/-- A target is made if the device grants its texture; a companion must be there already. -/
theorem createWith_ok (hs : s.WellFormed) (hgrant : s.device.failTextureAfter ≠ some 0)
    {d : TargetDescription} (hdata : checkData d.tag d.format.info d.size d.layers d.data = .ok ())
    (companion : Companion) (hcompanion : ∀ own, companion.ownedKey? = some own →
      ∃ c, s.target? own = some c ∧ c.freed = false ∧ c.resized d.size = c) :
    ∃ s', (createWith d companion).run s = (.ok s.nextTarget, s') ∧
      Created s s' [s.device.lastName + 1] ∧
      s'.target? s.nextTarget =
        some (d.target s.nextTarget (s.device.lastName + 1) companion) ∧
      s'.device.failTextureAfter = s.device.failTextureAfter.map (· - 1) := by
  have hnew := added_withTarget hs hgrant d companion
  have ht := (hnew.target s.nextTarget).trans (if_pos rfl)
  have hold : ∀ key ∈ s.targets.keys, (s.withTarget d companion).target? key = s.target? key := by
    intro key hmem
    rw [hnew.target, if_neg]
    rintro rfl
    exact nextTarget_notMem hs hmem
  obtain ⟨s', hupdate, hsame, hlookup, hafter⟩ := update_same ht rfl rfl hdata fun own hown => by
    obtain ⟨c, hc, hcfreed, hcsize⟩ := hcompanion own hown
    refine ⟨c, ?_, hcfreed, hcsize⟩
    rw [hold own (Table.mem_keys_iff.2 (Option.isSome_of_mem hc)), hc]
  have hadded : Created s (s.withTarget d companion) _ := ⟨hnew.textures, hnew.stories, hold⟩
  exact ⟨s', createWith_granted hgrant hupdate, hadded.trans hsame,
    (congrFun hlookup _).trans ht, hafter⟩

/-- A target that is refused its texture leaves nothing, unless it has a companion already. -/
theorem createWith_error (hrefuse : s.device.failTextureAfter = some 0) (d : TargetDescription)
    (companion : Companion) (hown : companion.ownedKey? = none) :
    ∃ e s', (createWith d companion).run s = (.error e, s') ∧ Created s s' [] :=
  ⟨_, _, createWith_refused hrefuse hown, ⟨(List.append_nil _).symm, rfl, fun _ _ => rfl⟩⟩

/-- A companion that was made before is released. -/
theorem createWith_error_owner (hrefuse : s.device.failTextureAfter = some 0)
    (d : TargetDescription) {own : TargetKey} {c : Target} (hc : s.target? own = some c)
    (hcfreed : c.freed = false) (halone : c.companion.ownedKey? = none) :
    ∃ e s', (createWith d (.owned own)).run s = (.error e, s') ∧ Released own c s s' := by
  have hc₁ : s.disarmed.target? own = some c := hc
  obtain ⟨s', hfree, h⟩ := run_free_alone hc₁ hcfreed fun own' hown => by
    rw [halone] at hown
    cases hown
  exact ⟨_, s', createWith_refused_owner hrefuse hfree, ⟨h.device, h.textures, h.framebuffers,
    h.buffers, h.fences, h.lastName, h.target, h.keys, h.stories, h.pending, h.delivered, h.clock,
    h.pollInterval⟩⟩

/-- Data that does not fit is refused before anything is done. -/
theorem create_refused {d : TargetDescription}
    (hdata : checkData d.tag d.format.info d.size d.layers d.data ≠ .ok ()) :
    ∃ e, (create d).run s = (.error e, s) := by
  rcases hcheck : checkData d.tag d.format.info d.size d.layers d.data with e | _
  · refine ⟨e, ?_⟩
    unfold create
    rw [hcheck]
    rfl
  · exact absurd hcheck hdata

section

variable {d : TargetDescription}
  (hdata : checkData d.tag d.format.info d.size d.layers d.data = .ok ())
include hdata

/-- How a target is made from data that fits. -/
theorem run_create : (create d).run s =
    (match d.depth with
      | some depth => createWith d (.borrowed depth)
      | none =>
        if d.withDepth then createWith d.companion .none >>= fun own => createWith d (.owned own)
        else createWith d .none : Attempt DrawError (Store State) TargetKey).run s := by
  unfold create
  rw [hdata]
  rfl

/-- A target that is granted all its textures adds them and nothing else. -/
theorem create_ok (hs : s.WellFormed)
    (hgrant : ∀ m, s.device.failTextureAfter = some m → d.textures ≤ m) :
    ∃ key s' names, (create d).run s = (.ok key, s') ∧ Created s s' names ∧
      names.length = d.textures ∧
      s'.device.failTextureAfter = s.device.failTextureAfter.map (· - d.textures) := by
  have hpos := d.textures_pos
  have hfirst : s.device.failTextureAfter ≠ some 0 := fun h => Nat.not_le_of_lt hpos (hgrant 0 h)
  have hnone (companion : Companion) (hown : companion.ownedKey? = none) :
      ∀ own, companion.ownedKey? = some own →
        ∃ c, s.target? own = some c ∧ c.freed = false ∧ c.resized d.size = c := by
    intro own h
    rw [hown] at h
    cases h
  rw [run_create hdata]
  split
  · rename_i depth hdepth
    obtain ⟨s', hrun, hcreated, -, hafter⟩ := createWith_ok hs hfirst hdata _
      (hnone (.borrowed depth) rfl)
    have hone : d.textures = 1 := by simp [TargetDescription.textures, hdepth]
    exact ⟨_, s', _, hrun, hcreated, hone.symm, hone ▸ hafter⟩
  · rename_i hdepth
    split
    · -- With a companion of its own two textures are asked for, and the companion's comes first.
      rename_i hwith
      have htwo : d.textures = 2 := by simp [TargetDescription.textures, hdepth, hwith]
      obtain ⟨s₁, hrun₁, hcreated₁, hc, hafter₁⟩ := createWith_ok (d := d.companion)
        hs hfirst rfl .none nofun
      obtain ⟨hs₁, -⟩ := (createWith_moves permitsParts_keeps _ _).of_run hrun₁ hs
      have hsecond : s₁.device.failTextureAfter ≠ some 0 := by
        rw [hafter₁]
        intro h
        obtain ⟨m, hm, hm'⟩ := Option.map_eq_some_iff.1 h
        have := hgrant m hm
        omega
      obtain ⟨s', hrun, hcreated, -, hafter⟩ := createWith_ok hs₁ hsecond hdata
        (.owned s.nextTarget) fun own hown => by
          cases hown
          exact ⟨_, hc, rfl, rfl⟩
      refine ⟨_, s', _, (Attempt.run_bind_ok hrun₁).trans hrun, hcreated₁.trans hcreated,
        htwo.symm, ?_⟩
      rw [hafter, hafter₁, htwo, Option.map_map]
      rfl
    · rename_i hwith
      have hone : d.textures = 1 := by simp [TargetDescription.textures, hwith]
      obtain ⟨s', hrun, hcreated, -, hafter⟩ := createWith_ok hs hfirst hdata _
        (hnone .none rfl)
      exact ⟨_, s', _, hrun, hcreated, hone.symm, hone ▸ hafter⟩

/-- A target that is not granted all its textures leaves none. -/
theorem create_error (hs : s.WellFormed) {m : Nat} (hgrant : s.device.failTextureAfter = some m)
    (hm : m < d.textures) : ∃ e s', (create d).run s = (.error e, s') ∧ Created s s' [] := by
  -- Fewer than one texture are none.
  have hmany (hone : d.textures = 1) : s.device.failTextureAfter = some 0 := by
    rw [hgrant]
    congr
    omega
  rw [run_create hdata]
  split
  · rename_i depth hdepth
    exact createWith_error (hmany (by simp [TargetDescription.textures, hdepth])) d _ rfl
  · rename_i hdepth
    split
    · rename_i hwith
      have htwo : d.textures = 2 := by simp [TargetDescription.textures, hdepth, hwith]
      by_cases hzero : m = 0
      · obtain ⟨e, s', hrun, hcreated⟩ := createWith_error (hzero ▸ hgrant)
          d.companion .none rfl
        exact ⟨e, s', Attempt.run_bind_error hrun, hcreated⟩
      · obtain ⟨s₁, hrun₁, hcreated₁, hc, hafter₁⟩ := createWith_ok (d := d.companion)
          hs (by rw [hgrant]; simpa using hzero) rfl .none nofun
        have hrefuse : s₁.device.failTextureAfter = some 0 := by
          rw [hafter₁, hgrant, Option.map_some]
          congr
          omega
        obtain ⟨e, s', hrun, hreleased⟩ := createWith_error_owner hrefuse d hc rfl rfl
        refine ⟨e, s', (Attempt.run_bind_ok hrun₁).trans hrun, ?_, ?_, fun key hkey => ?_⟩
        · -- The companion's texture was the last to come in and is the one that goes.
          have hlast : s.device.lastName + 1 ∉ s.device.textures.keys := fun hmem =>
            Nat.not_succ_le_self _ (hs.numbered.textures _ hmem)
          rw [hreleased.textures, Table.keys_erase, hcreated₁.textures, List.filter_append,
            List.filter_eq_self.2]
          · simp [TargetDescription.target]
          · intro id hid
            have hne : id ≠ s.device.lastName + 1 := fun e => hlast (e ▸ hid)
            simp [TargetDescription.target, hne]
        · exact hreleased.stories.trans hcreated₁.stories
        · have hne : key ≠ s.nextTarget := fun e => nextTarget_notMem hs (e ▸ hkey)
          rw [hreleased.target, if_neg hne, hcreated₁.targets key hkey]
    · rename_i hwith
      exact createWith_error (hmany (by simp [TargetDescription.textures, hwith])) d _ rfl

/-- Targets made one after the other, all granted. -/
theorem mapM_create_ok {n : Nat} (hs : s.WellFormed)
    (hgrant : ∀ m, s.device.failTextureAfter = some m → n * d.textures ≤ m) :
    ∃ keys s' names, ((List.replicate n d).mapM create).run s = (.ok keys, s') ∧
      Created s s' names := by
  induction n generalizing s with
  | zero => exact ⟨[], s, [], rfl, .refl s⟩
  | succ n ih =>
    have hn : (n + 1) * d.textures = n * d.textures + d.textures := Nat.succ_mul ..
    obtain ⟨key, s₁, names, hrun, hcreated, -, hafter⟩ := create_ok hdata hs fun m hm =>
      Nat.le_trans (hn ▸ Nat.le_add_left ..) (hgrant m hm)
    obtain ⟨hs₁, -⟩ := (create_moves permitsParts_keeps d).of_run hrun hs
    obtain ⟨keys, s', names', hrun', hcreated'⟩ := ih hs₁ fun m hm => by
      rw [hafter] at hm
      obtain ⟨m', hm', rfl⟩ := Option.map_eq_some_iff.1 hm
      have := hgrant m' hm'
      omega
    refine ⟨key :: keys, s', _, ?_, hcreated.trans hcreated'⟩
    rw [List.replicate_succ, List.mapM_cons, Attempt.run_bind_ok hrun, Attempt.run_bind_ok hrun']
    rfl

/-- Targets made one after the other until the device refuses: what has been made stays. -/
theorem mapM_create_error {n m : Nat} (hs : s.WellFormed)
    (hgrant : s.device.failTextureAfter = some m) (hm : m < n * d.textures) :
    ∃ e s' names, ((List.replicate n d).mapM create).run s = (.error e, s') ∧
      Created s s' names ∧ names.length = m / d.textures * d.textures := by
  -- Each target takes its textures off what the device still grants.
  induction n generalizing s m with
  | zero =>
    rw [Nat.zero_mul] at hm
    cases hm
  | succ n ih =>
    rw [List.replicate_succ, List.mapM_cons]
    by_cases hfirst : m < d.textures
    · obtain ⟨e, s', hrun, hcreated⟩ := create_error hdata hs hgrant hfirst
      refine ⟨e, s', [], Attempt.run_bind_error hrun, hcreated, ?_⟩
      rw [Nat.div_eq_of_lt hfirst, Nat.zero_mul]
      rfl
    · have hle := Nat.not_lt.1 hfirst
      obtain ⟨key, s₁, names, hrun, hcreated, hlength, hafter⟩ :=
        create_ok hdata hs fun m' hm' => by
          rw [hgrant] at hm'
          cases hm'
          exact hle
      obtain ⟨hs₁, -⟩ := (create_moves permitsParts_keeps d).of_run hrun hs
      rw [hgrant, Option.map_some] at hafter
      obtain ⟨e, s', names', hrun', hcreated', hlength'⟩ := ih hs₁ hafter (by
        rw [Nat.succ_mul] at hm
        omega)
      refine ⟨e, s', _, ?_, hcreated.trans hcreated', ?_⟩
      · rw [Attempt.run_bind_ok hrun, Attempt.run_bind_error hrun']
      · have hstep : m / d.textures = (m - d.textures) / d.textures + 1 :=
          Nat.div_eq_sub_div d.textures_pos hle
        rw [List.length_append, hlength, hlength', hstep, Nat.succ_mul, Nat.add_comm]

end

end Store

end DrawPass
