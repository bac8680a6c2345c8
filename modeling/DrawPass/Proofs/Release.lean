/-
DrawPass/Proofs/Release.lean

What the end of a target leaves behind.

Freeing a target takes its texture, its framebuffer and its pixel buffers from the
device, and nothing else (`Released`).  A target with a companion of its own takes the
companion along: the outcome is that of releasing the companion first and the target
after it (`run_free_owner`), whatever the order in which the two are marked.
-/
import DrawPass.Proofs.StoreMoves

namespace DrawPass

open Gl Readback Software

namespace Readback.PackPool

/-- The pool after all its buffers have been deleted. -/
def emptied (p : PackPool) : PackPool :=
  { p with
    idle := []
    live := []
    capacities := p.live.foldl (fun capacities buffer => capacities.insert buffer 0) p.capacities }

/-- Deleted buffers have no capacity; the others keep theirs. -/
theorem capacity_foldl_insert (p : PackPool) (buffers : List Name) (buffer : Name) :
    ({ p with capacities := buffers.foldl (fun c b => c.insert b 0) p.capacities } :
      PackPool).capacity buffer = if buffer ∈ buffers then 0 else p.capacity buffer := by
  induction buffers generalizing p with
  | nil => simp
  | cons b buffers ih =>
    refine (ih { p with capacities := p.capacities.insert b 0 }).trans ?_
    by_cases hmem : buffer ∈ buffers
    · simp [hmem]
    · by_cases hb : b = buffer
      · simp [hmem, hb, capacity]
      · simp [hmem, hb, Ne.symm hb, capacity]

theorem capacity_emptied (p : PackPool) (buffer : Name) :
    p.emptied.capacity buffer = if buffer ∈ p.live then 0 else p.capacity buffer :=
  capacity_foldl_insert p p.live buffer

end Readback.PackPool

/-- The target after its end. -/
def Target.released (t : Target) : Target :=
  { t with framebuffer := none, pool := t.pool.emptied, freed := true }

/-- The device after some buffers have been deleted. -/
def Software.State.deleteBuffers (d : State) (dead : List Name) : State :=
  dead.foldl (fun d buffer => (d.perform (.deleteBuffer buffer)).2) d

/-- The device after what a target has on it has been deleted: its framebuffer, its pixel buffers
and its texture. -/
def Target.endOn (t : Target) (d : State) : State :=
  let unbound := match t.framebuffer with
    | none => d
    | some framebuffer => (d.perform (.deleteFramebuffer framebuffer)).2
  ((unbound.deleteBuffers t.pool.live).perform (.deleteTexture t.texture.name)).2

namespace Store

/-- The device objects of a target are gone, and the target has none left. -/
structure Released (key : TargetKey) (t : Target) (s s' : Store State) : Prop where
  /-- The end of a target may follow on a texture that was not made. -/
  device : ∃ armed, s'.device = t.endOn { s.device with failTextureAfter := armed }
  textures : s'.device.textures = s.device.textures.erase t.texture.name
  framebuffers : ∀ id, s'.device.framebuffers.get? id =
    if t.framebuffer = some id then none else s.device.framebuffers.get? id
  buffers : ∀ id, s'.device.buffers.get? id =
    if id ∈ t.pool.live then none else s.device.buffers.get? id
  fences : s'.device.fences = s.device.fences
  lastName : s'.device.lastName = s.device.lastName
  target : ∀ key', s'.target? key' = if key' = key then some t.released else s.target? key'
  keys : s'.targets.keys = s.targets.keys
  stories : s'.stories = s.stories
  pending : s'.pending = s.pending
  delivered : s'.delivered = s.delivered
  clock : s'.clock = s.clock
  pollInterval : s'.pollInterval = s.pollInterval

variable {s : Store State} {key : TargetKey} {t : Target}

theorem target?_modifyTarget {σ : Type} (s : Store σ) (key key' : TargetKey)
    (f : Target → Target) :
    (s.modifyTarget key f).target? key' =
      if key = key' then (s.target? key').map f else s.target? key' :=
  Table.get?_modify ..

/-- The store after some buffers of its device have been deleted. -/
theorem foldl_deleteBuffer (dead : List Name) (s : Store State) :
    ∃ buffers log, dead.foldl (fun s buffer => (perform (.deleteBuffer buffer) s).2) s =
        { s with device := { s.device with buffers, log } } ∧
      ∀ id, buffers.get? id = if id ∈ dead then none else s.device.buffers.get? id := by
  induction dead generalizing s with
  | nil => exact ⟨s.device.buffers, s.device.log, rfl, fun _ => by simp⟩
  | cons buffer dead ih =>
    obtain ⟨buffers, log, hs, hbuffers⟩ := ih (perform (.deleteBuffer buffer) s).2
    refine ⟨buffers, log, hs, fun id => ?_⟩
    have hid : (perform (.deleteBuffer buffer) s).2.device.buffers.get? id =
        if id = buffer then none else s.device.buffers.get? id := Table.get?_erase ..
    rw [hbuffers, hid]
    by_cases h : id = buffer <;> simp [h]

theorem device_foldl_deleteBuffer (dead : List Name) (s : Store State) :
    (dead.foldl (fun s buffer => (perform (.deleteBuffer buffer) s).2) s).device =
      s.device.deleteBuffers dead := by
  induction dead generalizing s with
  | nil => rfl
  | cons buffer dead ih => exact ih _

theorem run_invalidateAll (p : PackPool) (s : Store State) :
    (p.invalidateAll : StateM (Store State) PackPool) s =
      (p.emptied, p.live.foldl (fun s buffer => (perform (.deleteBuffer buffer) s).2) s) := by
  unfold PackPool.invalidateAll
  exact run_forIn_bind (fun b => perform (.deleteBuffer b)) p.live _ s

/-- The framebuffer goes first. -/
def withoutFramebuffer (s : Store State) (key : TargetKey) (t : Target) : Store State :=
  match t.framebuffer with
  | none => s
  | some framebuffer =>
    (perform (.deleteFramebuffer framebuffer)
      (s.modifyTarget key fun t => { t with framebuffer := none })).2

theorem target?_withoutFramebuffer (ht : s.target? key = some { t with freed := true })
    (key' : TargetKey) :
    (s.withoutFramebuffer key t).target? key' =
      if key' = key then some { t with framebuffer := none, freed := true }
      else s.target? key' := by
  unfold withoutFramebuffer
  rcases hframebuffer : t.framebuffer with _ | framebuffer <;> dsimp only
  · split
    · rename_i h
      rw [h, ht, ← hframebuffer]
    · rfl
  · change (s.modifyTarget key _).target? key' = _
    rw [target?_modifyTarget]
    by_cases h : key' = key
    · rw [if_pos h.symm, if_pos h, h, ht]
      rfl
    · rw [if_neg (Ne.symm h), if_neg h]

theorem framebuffers_withoutFramebuffer (s : Store State) (key : TargetKey) (t : Target)
    (id : Name) :
    (s.withoutFramebuffer key t).device.framebuffers.get? id =
      if t.framebuffer = some id then none else s.device.framebuffers.get? id := by
  unfold withoutFramebuffer
  rcases t.framebuffer with _ | framebuffer
  · simp
  · change (s.device.framebuffers.erase framebuffer).get? id = _
    rw [Table.get?_erase]
    by_cases h : id = framebuffer
    · rw [if_pos h, if_pos (congrArg some h.symm)]
    · rw [if_neg h, if_neg fun e => h (Option.some.inj e).symm]

/-- Nothing else is another, apart from the framebuffer that is bound. -/
theorem withoutFramebuffer_eq (s : Store State) (key : TargetKey) (t : Target) :
    ∃ targets framebuffers boundFramebuffer log, s.withoutFramebuffer key t =
        { s with targets, device := { s.device with framebuffers, boundFramebuffer, log } } ∧
      targets.keys = s.targets.keys := by
  unfold withoutFramebuffer
  rcases t.framebuffer with _ | framebuffer
  · exact ⟨_, _, _, _, rfl, rfl⟩
  · exact ⟨_, _, _, _, rfl, Table.keys_modify ..⟩

theorem run_release_eq (key : TargetKey) (t : Target) (s : Store State) :
    (release key t : StateM (Store State) Unit) s =
      ((), (perform (.deleteTexture t.texture.name) ((t.pool.live.foldl
        (fun s buffer => (perform (.deleteBuffer buffer) s).2)
          (s.withoutFramebuffer key t)).modifyPool key fun _ => t.pool.emptied)).2) := by
  have hpool (s : Store State) : (do
      let pool ← t.pool.invalidateAll
      modify fun s => s.modifyPool key fun _ => pool
      perform (.deleteTexture t.texture.name) : StateM (Store State) Unit) s =
        ((), (perform (.deleteTexture t.texture.name) ((t.pool.live.foldl
          (fun s buffer => (perform (.deleteBuffer buffer) s).2) s).modifyPool key
            fun _ => t.pool.emptied)).2) := by
    have h := run_invalidateAll t.pool s
    change (fun p : PackPool × Store State => ((), (perform (.deleteTexture t.texture.name)
      (p.2.modifyPool key fun _ => p.1)).2)) ((t.pool.invalidateAll : StateM _ _) s) = _
    rw [h]
  unfold release withoutFramebuffer
  rcases t.framebuffer with _ | framebuffer
  · exact hpool s
  · exact hpool _

theorem run_release (ht : s.target? key = some { t with freed := true }) :
    ∃ s', (release key t : StateM (Store State) Unit) s = ((), s') ∧ Released key t s s' := by
  obtain ⟨targets, framebuffers, bound, log₁, hstart, hkeys⟩ := s.withoutFramebuffer_eq key t
  refine ⟨_, run_release_eq key t s, ?_⟩
  have hend : ((perform (.deleteTexture t.texture.name) ((t.pool.live.foldl
      (fun s buffer => (perform (.deleteBuffer buffer) s).2)
        (s.withoutFramebuffer key t)).modifyPool key fun _ => t.pool.emptied)).2 :
          Store State).device = t.endOn s.device := by
    refine congrArg (fun d : State => (d.perform (.deleteTexture t.texture.name)).2)
      ((device_foldl_deleteBuffer ..).trans (congrArg (State.deleteBuffers · t.pool.live) ?_))
    unfold withoutFramebuffer
    split <;> rfl
  obtain ⟨buffers, log, hstore, hget⟩ :=
    foldl_deleteBuffer t.pool.live (s.withoutFramebuffer key t)
  have htarget := target?_withoutFramebuffer ht
  have hframebuffers := s.framebuffers_withoutFramebuffer key t
  -- The framebuffer goes first, then the buffers of the pool, and the texture at the end.
  rw [hstore] at hend ⊢
  rw [hstart] at hget htarget hframebuffers hend ⊢
  constructor
  case device => exact ⟨s.device.failTextureAfter, hend⟩
  case textures => rfl
  case framebuffers => exact hframebuffers
  case buffers => exact hget
  case fences => rfl
  case lastName => rfl
  case target =>
    intro key'
    change (modifyTarget _ key _).target? key' = _
    rw [target?_modifyTarget]
    have hlook := htarget key'
    change Table.get? targets key' = _ at hlook
    by_cases h : key' = key
    · subst h
      rw [if_pos rfl] at hlook ⊢
      rw [if_pos rfl]
      change (Table.get? targets key').map _ = _
      rw [hlook]
      rfl
    · rw [if_neg (Ne.symm h), if_neg h]
      exact hlook.trans (if_neg h)
  case keys => exact (Table.keys_modify ..).trans hkeys
  case stories => rfl
  case pending => rfl
  case delivered => rfl
  case clock => rfl
  case pollInterval => rfl

/-- That the target has been marked before makes no difference. -/
theorem Released.of_marked {s' : Store State} {f : Target → Target}
    (h : Released key t (s.modifyTarget key f) s') : Released key t s s' where
  device := h.device
  textures := h.textures
  framebuffers := h.framebuffers
  buffers := h.buffers
  fences := h.fences
  lastName := h.lastName
  target key' := by
    rw [h.target]
    split
    · rfl
    · rename_i hne
      rw [target?_modifyTarget, if_neg (Ne.symm hne)]
  keys := h.keys.trans (Table.keys_modify ..)
  stories := h.stories
  pending := h.pending
  delivered := h.delivered
  clock := h.clock
  pollInterval := h.pollInterval

theorem run_mark_release (ht : s.target? key = some t) :
    ∃ s', (release key t : StateM (Store State) Unit)
        (s.modifyTarget key fun t => { t with freed := true }) = ((), s') ∧
      Released key t s s' := by
  have hmarked : (s.modifyTarget key fun t => { t with freed := true }).target? key =
      some { t with freed := true } := by
    rw [target?_modifyTarget, if_pos rfl, ht]
    rfl
  obtain ⟨s', hrun, h⟩ := run_release hmarked
  exact ⟨s', hrun, h.of_marked⟩

/-- What has been freed, or never was, is left alone. -/
theorem run_freeAlone_gone (h : ∀ t, s.target? key = some t → t.freed = true) :
    (freeAlone key : StateM (Store State) Unit) s = ((), s) := by
  unfold freeAlone
  rw [run_get_bind]
  rcases ht : s.target? key with _ | t
  · rfl
  · simp only [h t ht]
    rfl

theorem run_freeAlone (ht : s.target? key = some t) (hfreed : t.freed = false) :
    ∃ s', (freeAlone key : StateM (Store State) Unit) s = ((), s') ∧ Released key t s s' := by
  obtain ⟨s', hrun, h⟩ := run_mark_release ht
  refine ⟨s', ?_, h⟩
  unfold freeAlone
  rw [run_get_bind, ht]
  simp only [hfreed]
  exact hrun

/-- What has been freed, or never was, is left alone. -/
theorem run_free_gone (h : ∀ t, s.target? key = some t → t.freed = true) :
    (free key : StateM (Store State) Unit) s = ((), s) := by
  unfold free
  rw [run_get_bind]
  rcases ht : s.target? key with _ | t
  · rfl
  · simp only [h t ht]
    rfl

/-- A target that owns nothing else goes alone. -/
theorem run_free_alone (ht : s.target? key = some t) (hfreed : t.freed = false)
    (hown : ∀ own, t.companion.ownedKey? = some own → own ≠ key ∧
      ∀ c, s.target? own = some c → c.freed = true) :
    ∃ s', (free key : StateM (Store State) Unit) s = ((), s') ∧ Released key t s s' := by
  obtain ⟨s', hrun, h⟩ := run_mark_release ht
  refine ⟨s', ?_, h⟩
  unfold free
  rw [run_get_bind, ht]
  simp only [hfreed]
  rcases hkey : t.companion.ownedKey? with _ | own
  · exact hrun
  · obtain ⟨hne, hgone⟩ := hown own hkey
    have hc : (freeAlone own : StateM (Store State) Unit)
        (s.modifyTarget key fun t => { t with freed := true }) = ((), _) :=
      run_freeAlone_gone fun c hc => hgone c (by rwa [target?_modifyTarget, if_neg hne.symm] at hc)
    change ((freeAlone own : StateM (Store State) Unit) >>= fun _ => release key t)
      (s.modifyTarget key fun t => { t with freed := true }) = _
    change (fun p : Unit × Store State => (release key t : StateM _ _) p.2)
      ((freeAlone own : StateM (Store State) Unit) _) = _
    rw [hc]
    exact hrun

/-- A companion that is still there goes first. -/
theorem run_free_owner (ht : s.target? key = some t) (hfreed : t.freed = false)
    {own : TargetKey} (hown : t.companion.ownedKey? = some own) (hne : own ≠ key) {c : Target}
    (hc : s.target? own = some c) (hcfreed : c.freed = false) :
    ∃ s₁ s', (free key : StateM (Store State) Unit) s = ((), s') ∧ Released own c s s₁ ∧
      Released key t s₁ s' := by
  have hc' : (s.modifyTarget key fun t => { t with freed := true }).target? own = some c := by
    rw [target?_modifyTarget, if_neg hne.symm, hc]
  obtain ⟨s₁, hrun₁, h₁⟩ := run_freeAlone hc' hcfreed
  have hmarked : s₁.target? key = some { t with freed := true } := by
    rw [h₁.target, if_neg hne.symm, target?_modifyTarget, if_pos rfl, ht]
    rfl
  obtain ⟨s', hrun, h⟩ := run_release hmarked
  -- The state between the two ends, as it would be if the target had not been marked.
  refine ⟨s₁.modifyTarget key fun _ => t, s', ?_, ⟨h₁.device, h₁.textures, h₁.framebuffers, h₁.buffers,
    h₁.fences, h₁.lastName, fun key' => ?_, (Table.keys_modify ..).trans
      (h₁.keys.trans (Table.keys_modify ..)), h₁.stories, h₁.pending, h₁.delivered, h₁.clock,
      h₁.pollInterval⟩,
    ⟨h.device, h.textures, h.framebuffers, h.buffers, h.fences, h.lastName, fun key' => ?_,
      h.keys.trans (Table.keys_modify ..).symm, h.stories, h.pending, h.delivered, h.clock,
      h.pollInterval⟩⟩
  · unfold free
    rw [run_get_bind, ht]
    simp only [hfreed, hown]
    change (fun p : Unit × Store State => (release key t : StateM _ _) p.2)
      ((freeAlone own : StateM (Store State) Unit) _) = _
    rw [hrun₁]
    exact hrun
  · rw [target?_modifyTarget]
    by_cases hkey : key' = key
    · subst hkey
      rw [if_pos rfl, if_neg hne.symm, hmarked, ht]
      rfl
    · rw [if_neg (Ne.symm hkey), h₁.target, target?_modifyTarget, if_neg (Ne.symm hkey)]
  · rw [h.target, target?_modifyTarget]
    by_cases hkey : key' = key
    · rw [if_pos hkey, if_pos hkey]
    · rw [if_neg hkey, if_neg hkey, if_neg (Ne.symm hkey)]

/-- Freeing is a preorder's business if the end of a single target is. -/
theorem free_moves_at {R : Store State → Store State → Prop} [IsPreorder (Store State) R]
    (hend : ∀ s s' key t, s.target? key = some t → t.freed = false → Released key t s s' → R s s')
    (hne : ∀ t own, s.target? key = some t → t.companion.ownedKey? = some own → own ≠ key) :
    R s ((free key : StateM (Store State) Unit) s).2 := by
  by_cases hgone : ∀ t, s.target? key = some t → t.freed = true
  · rw [run_free_gone hgone]
    exact refl s
  obtain ⟨t, ht, hfreed⟩ : ∃ t, s.target? key = some t ∧ t.freed = false := by
    simpa [Classical.not_forall] using hgone
  by_cases hthere : ∃ own c, t.companion.ownedKey? = some own ∧ s.target? own = some c ∧
      c.freed = false
  · obtain ⟨own, c, hown, hc, hcfreed⟩ := hthere
    have hother := hne t own ht hown
    obtain ⟨s₁, s', hrun, hfirst, hlast⟩ := run_free_owner ht hfreed hown hother hc hcfreed
    have ht₁ : s₁.target? key = some t := by
      rw [hfirst.target, if_neg hother.symm, ht]
    rw [hrun]
    exact IsTrans.trans s s₁ s' (hend s s₁ own c hc hcfreed hfirst) (hend s₁ s' key t ht₁ hfreed hlast)
  · obtain ⟨s', hrun, hlast⟩ := run_free_alone ht hfreed fun own hown =>
      ⟨hne t own ht hown, fun c hc => Bool.not_eq_false _ ▸ fun hcfreed =>
        hthere ⟨own, c, hown, hc, hcfreed⟩⟩
    rw [hrun]
    exact hend s s' key t ht hfreed hlast

end Store

end DrawPass
