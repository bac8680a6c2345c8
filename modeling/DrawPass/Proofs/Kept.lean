/-
DrawPass/Proofs/Kept.lean

What a store refers to is there.

`Store.Kept` says of a store that its device is tidy and has every object that is still to be
named: the textures and framebuffers of the targets that are there (`Store.Owned`), the
buffers of their pools, the buffer of the index array, and the fences of the reads under
way, each of them once.  It is what makes the calls of the library safe: whatever is named
next is held.

There are few steps by which a store changes, and each of them keeps what is kept: a command
that deletes nothing, a change of a target's contents, a new target, its framebuffer, its
end, and the ways of a pixel buffer and of a fence.
-/
import DrawPass.Proofs.Naming
import DrawPass.Proofs.Owned
import DrawPass.Proofs.ReadStep

namespace DrawPass

open Gl Readback Software

/-! ### The end of a target on the device -/

namespace Software.State

variable {P : Name → Prop} {d d' : State}

theorem holds_deleteBuffers (dead : List Name) (d : State) (kind : Kind) (id : Name) :
    id ∈ (d.deleteBuffers dead).holds kind ↔
      id ∈ d.holds kind ∧ ¬ (kind = .buffer ∧ id ∈ dead) := by
  induction dead generalizing d with
  | nil => simp [deleteBuffers]
  | cons buffer dead ih =>
    have hfirst := @holds_delete (.deleteBuffer buffer) _ _ rfl d kind id
    refine (ih _).trans ?_
    rw [hfirst, List.mem_cons, and_assoc]
    by_cases hkind : kind = .buffer <;> simp [hkind]

/-- Buffers may be deleted once each. -/
theorem Tidy.deleteBuffers {dead : List Name} (h : d.Tidy P)
    (hdead : ∀ buffer ∈ dead, buffer ∈ d.holds .buffer) (hdistinct : dead.Nodup) :
    (d.deleteBuffers dead).Tidy P := by
  induction dead generalizing d with
  | nil => exact h
  | cons buffer dead ih =>
    obtain ⟨hfirst, hrest⟩ := List.forall_mem_cons.1 hdead
    obtain ⟨hnew, hdistinct⟩ := List.nodup_cons.1 hdistinct
    refine ih (h.perform (.deleteBuffer buffer) (names_held hfirst _)) (fun b hb => ?_) hdistinct
    exact (holds_delete rfl ..).2 ⟨hrest b hb, fun e => hnew (e.2 ▸ hb)⟩

/-- A target that is there may end. -/
theorem Tidy.endOn (h : d.Tidy P) {t : Target}
    (hframebuffer : ∀ id, t.framebuffer = some id → id ∈ d.holds .framebuffer)
    (hbuffers : ∀ buffer ∈ t.pool.live, buffer ∈ d.holds .buffer)
    (hdistinct : t.pool.live.Nodup) (htexture : t.texture.name ∈ d.holds .texture) :
    (t.endOn d).Tidy P := by
  have hend {d : State} (h : d.Tidy P) (hbuffers : ∀ buffer ∈ t.pool.live, buffer ∈ d.holds .buffer)
      (htexture : t.texture.name ∈ d.holds .texture) :
      ((d.deleteBuffers t.pool.live).perform (.deleteTexture t.texture.name)).2.Tidy P := by
    refine (h.deleteBuffers hbuffers hdistinct).perform _ (names_held ?_ _)
    exact (holds_deleteBuffers ..).2 ⟨htexture, nofun⟩
  unfold Target.endOn
  rcases hid : t.framebuffer with _ | id
  · exact hend h hbuffers htexture
  · refine hend (h.perform _ (names_held (hframebuffer id hid) _)) (fun b hb => ?_) ?_
    · exact (holds_delete rfl ..).2 ⟨hbuffers b hb, nofun⟩
    · exact (holds_delete rfl ..).2 ⟨htexture, nofun⟩

end Software.State

/-- Whether objects of a kind belong to targets and reads. -/
def Gl.Kind.ofTargets : Kind → Bool
  | texture | framebuffer | buffer | fence => true
  | program | sampler | vertexArray => false

namespace Target

/-- The end of a target takes only what a target has. -/
theorem holds_endOn (t : Target) (d : State) {kind : Kind} {id : Name} (hid : id ∈ d.holds kind)
    (htexture : kind ≠ .texture) (hframebuffer : kind ≠ .framebuffer)
    (hbuffer : ¬ (kind = .buffer ∧ id ∈ t.pool.live)) : id ∈ (t.endOn d).holds kind := by
  have hend {d : State} (hid : id ∈ d.holds kind) :
      id ∈ ((d.deleteBuffers t.pool.live).perform (.deleteTexture t.texture.name)).2.holds kind :=
    (State.holds_delete rfl ..).2 ⟨(State.holds_deleteBuffers ..).2 ⟨hid, hbuffer⟩,
      fun e => htexture e.1⟩
  unfold endOn
  cases t.framebuffer with
  | none => exact hend hid
  | some framebuffer =>
    exact hend ((State.holds_delete rfl ..).2 ⟨hid, fun e => hframebuffer e.1⟩)

end Target

namespace Store

variable {α : Type} {P : Name → Prop} {index : Name} {reads : List PendingRead}
  {s s' : Store State} {key : TargetKey} {t : Target} {objects : List (Kind × Name)}

/-! ### The invariant -/

/-- The device is tidy, and what the store is still going to name is there. -/
structure Kept (P : Name → Prop) (index : Name) (reads : List PendingRead) (s : Store State) :
    Prop extends s.Owned where
  tidy : s.device.Tidy P
  pooled : s.Pooled index reads
  distinct : ∀ key p, s.pool? key = some p → p.live.Nodup
  index : index ∈ s.device.holds .buffer
  fences : ∀ read ∈ reads, read.fence ∈ s.device.holds .fence
  distinctFences : (reads.map PendingRead.fence).Nodup

theorem Kept.mono {Q : Name → Prop} (h : s.Kept P index reads) (hPQ : ∀ id, P id → Q id) :
    s.Kept Q index reads :=
  { h with tidy := h.tidy.mono hPQ }

/-- What is neither a target's nor a read's is left alone. -/
def Spares (s s' : Store State) : Prop :=
  ∀ kind : Kind, kind.ofTargets = false → s.device.holds kind ⊆ s'.device.holds kind

instance : IsPreorder (Store State) Spares where
  refl _ _ _ := List.Subset.refl _
  trans _ _ _ h h' kind hkind := List.Subset.trans (h kind hkind) (h' kind hkind)

/-- No object goes, and every target stays what it is. -/
structure Stays (s s' : Store State) : Prop where
  pending : s'.pending = s.pending
  holds : ∀ kind, s.device.holds kind ⊆ s'.device.holds kind
  frame : s'.frame? = s.frame?
  live : s'.IsLive = s.IsLive

instance : IsPreorder (Store State) Stays where
  refl _ := ⟨rfl, fun _ => List.Subset.refl _, rfl, rfl⟩
  trans _ _ _ h h' :=
    ⟨h'.pending.trans h.pending, fun kind => List.Subset.trans (h.holds kind) (h'.holds kind),
      h'.frame.trans h.frame, h'.live.trans h.live⟩

/-- The objects are there. -/
def Has (objects : List (Kind × Name)) (s : Store State) : Prop :=
  ∀ kind id, (kind, id) ∈ objects → id ∈ s.device.holds kind

theorem Stays.has (h : Stays s s') (hhas : s.Has objects) : s'.Has objects :=
  fun kind id hid => h.holds kind (hhas kind id hid)

/-- The texture of a companion that has been freed, although its target has not. -/
def Stray (s : Store State) (id : Name) : Prop :=
  ∃ key own f c, s.frame? key = some f ∧ s.IsLive key ∧ f.companion.key? = some own ∧
    s.frame? own = some c ∧ ¬ s.IsLive own ∧ c.name = id

theorem Stays.stray (h : Stays s s') {id : Name} : s'.Stray id ↔ s.Stray id := by
  unfold Stray
  rw [h.frame, h.live]

/-- If the objects are there, the step keeps what is kept, and nothing goes. -/
def Gentle (P : Name → Prop) (index : Name) (reads : List PendingRead)
    (objects : List (Kind × Name)) (s s' : Store State) : Prop :=
  s.Kept P index reads → s.Has objects → s'.Kept P index reads ∧ Stays s s'

instance : IsPreorder (Store State) (Gentle P index reads objects) where
  refl s h _ := ⟨h, refl (r := Stays) s⟩
  trans s s' s'' h h' hs hhas := by
    obtain ⟨hs', hstays⟩ := h hs hhas
    obtain ⟨hs'', hstays'⟩ := h' hs' (hstays.has hhas)
    exact ⟨hs'', IsTrans.trans (r := Stays) s s' s'' hstays hstays'⟩

/-- It need not be known beforehand that objects are there if what is kept says so. -/
theorem Gentle.of_has {objects' : List (Kind × Name)} (h : Gentle P index reads objects s s')
    (hhas : s.Kept P index reads → s.Has objects' → s.Has objects) :
    Gentle P index reads objects' s s' := fun hs hhas' => h hs (hhas hs hhas')

theorem has_nil (s : Store State) : s.Has [] := nofun

theorem has_singleton {kind : Kind} {id : Name} (h : id ∈ s.device.holds kind) :
    s.Has [(kind, id)] := by
  intro kind' id' hid
  cases List.mem_singleton.1 hid
  exact h

/-- The step keeps what is kept, and leaves alone the reads under way and what is neither a
target's nor a read's. -/
def Orderly (P : Name → Prop) (index : Name) (reads : List PendingRead) (s s' : Store State) :
    Prop := s.Kept P index reads → s'.Kept P index reads ∧ s'.pending = s.pending ∧ Spares s s'

instance : IsPreorder (Store State) (Orderly P index reads) where
  refl s h := ⟨h, rfl, refl (r := Spares) s⟩
  trans s s' s'' h h' hs := by
    obtain ⟨hs', hpending, hspares⟩ := h hs
    obtain ⟨hs'', hpending', hspares'⟩ := h' hs'
    exact ⟨hs'', hpending'.trans hpending, IsTrans.trans (r := Spares) s s' s'' hspares hspares'⟩

theorem Stays.spares (h : Stays s s') : Spares s s' := fun kind _ => h.holds kind

theorem Gentle.orderly (h : Gentle P index reads [] s s') : Orderly P index reads s s' := by
  intro hs
  obtain ⟨hs', hstays⟩ := h hs s.has_nil
  exact ⟨hs', hstays.pending, hstays.spares⟩

theorem Kept.texture_held (h : s.Kept P index reads) (ht : s.target? key = some t)
    (hfreed : t.freed = false) : t.texture.name ∈ s.device.holds .texture :=
  h.texture key _ (frame?_of_target? ht) ((isLive_of_target? ht).2 hfreed)

theorem Kept.framebuffer_held (h : s.Kept P index reads) (ht : s.target? key = some t) {id : Name}
    (hid : t.framebuffer = some id) : id ∈ s.device.holds .framebuffer :=
  h.framebuffer key id ((framebuffer?_of_target? ht).trans hid)

theorem Kept.buffer_held (h : s.Kept P index reads) {p : PackPool} (hp : s.pool? key = some p)
    {buffer : Name} (hbuffer : buffer ∈ p.live) : buffer ∈ s.device.holds .buffer := by
  obtain ⟨content, hcontent, -⟩ := h.pooled.stored key p buffer hp hbuffer
  exact Table.mem_keys_iff.2 (Option.isSome_of_mem hcontent)

/-! ### Commands and contents -/

/-- A command that deletes nothing and names what is held. -/
theorem Kept.perform (h : s.Kept P index reads) (command : Command α)
    (hframes : command.keepsFrames) (hdeletes : command.deletes? = none)
    (hnames : s.device.Names P command.names command.isAttachment)
    (hpooled : (perform command s).2.Pooled index reads) :
    (perform command s).2.Kept P index reads where
  toOwned := command_owning command hframes s h.toOwned
  tidy := h.tidy.perform command hnames
  pooled := hpooled
  distinct := h.distinct
  index := State.holds_perform hdeletes _ _ h.index
  fences read hread := State.holds_perform hdeletes _ _ (h.fences read hread)
  distinctFences := h.distinctFences

theorem stays_perform {command : Command α} (hdeletes : command.deletes? = none)
    (s : Store State) : Stays s (Gl.perform command s).2 :=
  ⟨rfl, State.holds_perform hdeletes s.device, rfl, rfl⟩

/-- A command that leaves the tracked objects alone and names what is there. -/
theorem command_gentle (command : Command α) (hobjects : command.keepsObjects)
    (hdeletes : command.deletes? = none) (hnames : command.names ⊆ objects) :
    Moves (Gentle P index reads objects) (perform command : StateM (Store State) α) := by
  intro s h hhas
  have hsame := State.sameObjects_perform command hobjects s.device
  exact ⟨h.perform command (command.keepsFrames_of_keepsObjects hobjects) hdeletes
    (fun kind id hid => .inl (hhas kind id (hnames hid)))
    (h.pooled.of_same rfl rfl hsame.lastName hsame.buffers), stays_perform hdeletes s⟩

/-- Nothing but the store's own fields has changed. -/
theorem Kept.of_same (h : s.Kept P index reads) (howned : s'.Owned) (htargets : SameTargets s s')
    (hdevice : s'.device = s.device) : s'.Kept P index reads where
  toOwned := howned
  tidy := hdevice ▸ h.tidy
  pooled := h.pooled.of_same htargets.pool htargets.live (Nat.le_of_eq (by rw [hdevice]))
    (by rw [hdevice])
  distinct := htargets.pool ▸ h.distinct
  index := hdevice ▸ h.index
  fences := hdevice ▸ h.fences
  distinctFences := h.distinctFences

theorem gentle_of_same (howned : Owning s s') (htargets : SameTargets s s')
    (hdevice : s'.device = s.device) (hpending : s'.pending = s.pending) :
    Gentle P index reads objects s s' := fun h _ =>
  ⟨h.of_same (howned h.toOwned) htargets hdevice, hpending,
    fun _ => hdevice ▸ List.Subset.refl _, htargets.frame, htargets.live⟩

theorem contents_gentle (s : Store State) (key : TargetKey) (f : Target → Target)
    (hf : ∀ t : Target, t.SameObjects (f t)) :
    Gentle P index reads objects s (s.modifyTarget key f) :=
  gentle_of_same (permitsContents_owning.contents s key f hf) (sameTargets_modifyTarget s key hf)
    rfl rfl

theorem rotate_gentle (s : Store State) (key : StoryKey) :
    Gentle P index reads objects s (s.rotate key) :=
  gentle_of_same (rotate_owning s key) (.of_eq rfl) rfl rfl

/-- The reads handed over and the time may change as they like. -/
theorem time_gentle (hdevice : s'.device = s.device) (htargets : s'.targets = s.targets)
    (hstories : s'.stories = s.stories) (hpending : s'.pending = s.pending) :
    Gentle P index reads objects s s' := by
  refine gentle_of_same (permitsReads_owning.reads s s' hdevice htargets hstories) (.of_eq ?_)
    hdevice hpending
  funext key
  rw [target?, target?, htargets]

/-- The index array may be written. -/
theorem writeIndex_gentle (target : UInt32) (data : Bytes) (usage : UInt32) :
    Moves (Gentle P index reads objects)
      (Gl.perform (.bufferData target index data usage) : StateM (Store State) Unit) := fun _ h _ =>
  ⟨h.perform _ rfl rfl (State.names_held h.index _) (h.pooled.index_written target data usage),
    stays_perform rfl _⟩

/-- The settings of the device are no objects. -/
theorem Kept.set (h : s.Kept P index reads) {d : State} (hsame : State.SameHolds s.device d)
    (howned : ({ s with device := d } : Store State).Owned)
    (hbuffers : d.buffers = s.device.buffers) :
    ({ s with device := d } : Store State).Kept P index reads where
  toOwned := howned
  tidy := h.tidy.of_same hsame
  pooled := h.pooled.of_same rfl rfl hsame.lastName hbuffers
  distinct := h.distinct
  index := hsame.holds.symm ▸ h.index
  fences := hsame.holds.symm ▸ h.fences
  distinctFences := h.distinctFences

/-! ### The life of a target -/

/-- The other targets keep what they have. -/
theorem released_orderly (hend : Released key t s s') (ht : s.target? key = some t)
    (hfreed : t.freed = false) : Orderly P index reads s s' := by
  intro h
  obtain ⟨armed, hdevice⟩ := hend.device
  have hp := pool?_of_target? ht
  let d : State := { s.device with failTextureAfter := armed }
  have hsame : State.SameHolds s.device d := ⟨rfl, Nat.le_refl _, rfl⟩
  -- Only the objects of the target go: its texture, its framebuffer and the buffers of its pool.
  have hholds {kind : Kind} {id : Name} (hid : id ∈ s.device.holds kind) (htexture : kind ≠ .texture)
      (hframebuffer : kind ≠ .framebuffer) (hbuffer : ¬ (kind = .buffer ∧ id ∈ t.pool.live)) :
      id ∈ s'.device.holds kind :=
    hdevice ▸ t.holds_endOn d hid htexture hframebuffer hbuffer
  refine ⟨⟨h.toOwned.released hend ht, ?_, h.pooled.released hend ht, fun key' p hp' => ?_, ?_,
    fun read hread => ?_, h.distinctFences⟩, hend.pending, fun kind hkind id hid => ?_⟩
  · rw [hdevice]
    exact (h.tidy.of_same hsame).endOn (fun id hid => h.framebuffer_held ht hid)
      (fun b hb => h.buffer_held hp hb) (h.distinct key _ hp) (h.texture_held ht hfreed)
  · rw [(hend.targets ht).2.2.1] at hp'
    split at hp'
    · cases hp'
      exact List.nodup_nil
    · exact h.distinct key' p hp'
  · exact hholds h.index nofun nofun fun e => (h.pooled.numbered key _ _ hp e.2).2 rfl
  · exact hholds (h.fences read hread) nofun nofun nofun
  · refine hholds hid ?_ ?_ fun e => ?_
    · rintro rfl
      cases hkind
    · rintro rfl
      cases hkind
    · obtain ⟨rfl, -⟩ := e
      cases hkind

theorem free_orderly (key : TargetKey) :
    Moves (Orderly P index reads) (free key : StateM (Store State) Unit) := by
  intro s h
  exact free_moves_at (R := Orderly P index reads)
    (fun _ _ _ _ ht hfreed hend => released_orderly hend ht hfreed)
    (fun _ _ ht hown => h.own_ne ht hown) h

/-- A new target has a texture and no buffers. -/
theorem added_orderly {d : TargetDescription} {companion : Companion}
    (hnew : Added d companion s s') (hkeeps : Keeps s s')
    (hcompanion : ∀ own, companion.ownedKey? = some own → own.index < s.targets.size) :
    Orderly P index reads s s' := by
  intro h
  have hholds (kind : Kind) : s.device.holds kind ⊆ s'.device.holds kind :=
    hnew.device ▸ State.holds_perform rfl s.device kind
  refine ⟨⟨h.toOwned.added hnew hkeeps hcompanion, ?_, h.pooled.added hnew, fun key' p hp => ?_,
    hholds _ h.index, fun read hread => hholds _ (h.fences read hread), h.distinctFences⟩,
    hnew.pending, fun kind _ => hholds kind⟩
  · rw [hnew.device]
    exact h.tidy.perform _ (State.names_nil P _ _)
  · rw [hnew.targets.2.2.1] at hp
    split at hp
    · cases hp
      exact List.nodup_nil
    · exact h.distinct key' p hp

theorem refuse_orderly (s : Store State) : Orderly P index reads s s.disarmed := fun h =>
  ⟨h.set ⟨rfl, Nat.le_refl _, rfl⟩ (refuse_owning s h.toOwned) rfl, rfl,
    fun _ _ => List.Subset.refl _⟩

/-- The objects are held, or are textures from the given set. -/
def Given (P : Name → Prop) (objects : List (Kind × Name)) (s : Store State) : Prop :=
  ∀ kind id, (kind, id) ∈ objects → id ∈ s.device.holds kind ∨ kind = .texture ∧ P id

/-- The device stays tidy if the objects are given, no object goes, and targets keep their
textures. -/
def Attaches (P : Name → Prop) (objects : List (Kind × Name)) (s s' : Store State) : Prop :=
  s.device.Tidy P → s.Given P objects → s'.device.Tidy P ∧
    (∀ kind, s.device.holds kind ⊆ s'.device.holds kind) ∧
    ∀ key, (s'.target? key).map Target.texture = (s.target? key).map Target.texture

instance : IsPreorder (Store State) (Attaches P objects) where
  refl _ h _ := ⟨h, fun _ => List.Subset.refl _, fun _ => rfl⟩
  trans s s' s'' h h' hs hgiven := by
    obtain ⟨hs', hholds, htextures⟩ := h hs hgiven
    obtain ⟨hs'', hholds', htextures'⟩ := h' hs' fun kind id hid =>
      (hgiven kind id hid).imp_left fun hid => hholds kind hid
    exact ⟨hs'', fun kind => List.Subset.trans (hholds kind) (hholds' kind), fun key =>
      (htextures' key).trans (htextures key)⟩

theorem command_attaches (command : Command Unit) (hdeletes : command.deletes? = none)
    (hnames : ∀ kind id, (kind, id) ∈ command.names → (kind, id) ∈ objects ∧
      (kind = .texture → command.isAttachment = true)) :
    Moves (Attaches P objects) (Gl.perform command : StateM (Store State) Unit) := by
  intro s htidy hgiven
  refine ⟨htidy.perform command fun kind id hid => ?_, State.holds_perform hdeletes s.device,
    fun _ => rfl⟩
  obtain ⟨hmem, hattach⟩ := hnames kind id hid
  exact (hgiven kind id hmem).imp_right fun h => ⟨hattach h.1, h.2⟩

theorem attach_attaches (t : Target) (ht : (.texture, t.texture.name) ∈ objects) :
    Moves (Attaches P objects) (t.attach : StateM (Store State) Unit) := by
  have hattach (point : UInt32) (layer : Option UInt32) : Moves (Attaches P objects)
      (Gl.perform (.framebufferTexture point t.texture.name layer) :
        StateM (Store State) Unit) := by
    refine command_attaches _ rfl fun kind id hid => ?_
    cases List.mem_singleton.1 hid
    exact ⟨ht, fun _ => rfl⟩
  unfold Target.attach
  split
  · exact hattach _ _
  · refine .bind (.forIn (fun layer _ => ?_) _ _) fun _ => command_attaches _ rfl nofun
    exact .bind (hattach _ _) fun _ => .pure _

/-- What the framebuffer of a target is about: itself, the target's texture and the companion's. -/
def frameObjects (s : Store State) (t : Target) (id : Name) : List (Kind × Name) :=
  (.framebuffer, id) :: (.texture, t.texture.name) ::
    (t.companion.key?.bind s.target?).toList.map fun c => (.texture, c.texture.name)

theorem Kept.given (h : s.Kept P index reads) (ht : s.target? key = some t)
    (hfreed : t.freed = false) (hstray : ∀ id, s.Stray id → P id)
    (hholds : ∀ kind, s.device.holds kind ⊆ s'.device.holds kind) {id : Name}
    (hid : id ∈ s'.device.holds .framebuffer) : s'.Given P (s.frameObjects t id) := by
  intro kind id' hmem
  rcases List.mem_cons.1 hmem with hmem | hmem
  · cases hmem
    exact .inl hid
  rcases List.mem_cons.1 hmem with hmem | hmem
  · cases hmem
    exact .inl (hholds _ (h.texture_held ht hfreed))
  obtain ⟨c, hc, hmem⟩ := List.mem_map.1 hmem
  cases hmem
  have hc := Option.mem_toList.1 hc
  obtain ⟨own, hkey, hown⟩ := Option.bind_eq_some_iff.1 hc
  cases hcfreed : c.freed with
  | false => exact .inl (hholds _ (h.texture_held hown hcfreed))
  | true =>
    have hgone : ¬ s.IsLive own := by
      rw [isLive_of_target? hown, hcfreed]
      exact nofun
    exact .inr ⟨rfl, hstray _ ⟨key, own, t.frame, c.frame, frame?_of_target? ht,
      (isLive_of_target? ht).2 hfreed, hkey, frame?_of_target? hown, hgone, rfl⟩⟩

theorem createFramebuffer_held {id : Name} (h : (Attempt.create .gl .createFramebuffer :
      Attempt DrawError (Store State) Name).run s = (.ok id, s')) :
    id ∈ s'.device.holds .framebuffer := by
  cases hfail : s.device.failNextFramebuffer with
  | true =>
    obtain ⟨e, herror⟩ := run_createFramebuffer_error hfail
    rw [herror] at h
    cases h
  | false =>
    rw [run_createFramebuffer_ok hfail] at h
    cases h
    exact Table.mem_keys_insert.2 (.inl rfl)

/-- The framebuffer of a target is made, bound and filled without a name that is not held. -/
theorem makeFramebuffer_tidy (h : s.Kept P index reads) (ht : s.target? key = some t)
    (hfreed : t.freed = false) (hstray : ∀ id, s.Stray id → P id) :
    ((makeFramebuffer key t).run s).2.device.Tidy P ∧
      ∀ kind, s.device.holds kind ⊆ ((makeFramebuffer key t).run s).2.device.holds kind := by
  let s₁ := (Gl.perform .createFramebuffer s).2
  have htidy : s₁.device.Tidy P := h.tidy.perform .createFramebuffer (State.names_nil P _ _)
  have hholds (kind : Kind) : s.device.holds kind ⊆ s₁.device.holds kind :=
    State.holds_perform rfl s.device kind
  unfold makeFramebuffer
  rcases hcreate : (Attempt.create .gl .createFramebuffer :
      Attempt DrawError (Store State) Name).run s with ⟨_ | id, s₂⟩ <;>
    obtain rfl : s₁ = s₂ :=
      (congrArg Prod.snd (Attempt.run_create ..)).symm.trans (congrArg Prod.snd hcreate)
  · rw [Attempt.run_bind_error hcreate]
    exact ⟨htidy, hholds⟩
  have hgiven : s₁.Given P (s.frameObjects t id) :=
    h.given ht hfreed hstray hholds (createFramebuffer_held hcreate)
  let R := Attaches P (s.frameObjects t id)
  suffices hrest : R s₁ _ from
    ⟨(hrest htidy hgiven).1, fun kind =>
      List.Subset.trans (hholds kind) ((hrest htidy hgiven).2.1 kind)⟩
  have hkeep (s : Store State) : R s (s.modifyTarget key fun t =>
      { t with framebuffer := some id }) := by
    refine fun htidy _ => ⟨htidy, fun _ => List.Subset.refl _, fun key' => ?_⟩
    rw [target?_modifyTarget]
    split
    · cases s.target? key' <;> rfl
    · rfl
  let s₂ := (Gl.perform (.bindFramebuffer (some id)) s₁).2
  let s₃ := ((t.attach : StateM (Store State) Unit) s₂).2
  have hbound : R s₁ s₂ := by
    refine command_attaches _ rfl (fun kind id' hid => ?_) s₁
    cases List.mem_singleton.1 hid
    exact ⟨List.mem_cons_self, nofun⟩
  have hown : R s₁ s₃ := IsTrans.trans (r := R) s₁ s₂ s₃ hbound
    (attach_attaches t (List.mem_cons_of_mem _ List.mem_cons_self) s₂)
  rw [Attempt.run_bind_ok hcreate, Attempt.run_bind_ok (Attempt.run_perform ..),
    Attempt.run_bind_ok (Attempt.run_lift ..), Attempt.run_bind_ok (Attempt.run_get _)]
  refine IsTrans.trans (r := R) s₁ s₃ _ hown ?_
  dsimp only
  split
  · rename_i c hc
    -- The companion has the texture that it had before the framebuffer was begun.
    obtain ⟨own, hkey, hown'⟩ := Option.bind_eq_some_iff.1 hc
    have htexture : (s.target? own).map Target.texture = some c.texture :=
      ((hown htidy hgiven).2.2 own).symm.trans (congrArg (Option.map Target.texture) hown')
    obtain ⟨c', hc', hsame⟩ := Option.map_eq_some_iff.1 htexture
    have hcompanion : (Kind.texture, c.texture.name) ∈ s.frameObjects t id := by
      refine List.mem_cons_of_mem _ (List.mem_cons_of_mem _ (List.mem_map.2 ⟨c', ?_, ?_⟩))
      · rw [hkey, Option.bind_some, hc', Option.toList_some]
        exact List.mem_singleton_self c'
      · rw [hsame]
    exact Attempt.Moves.bind (.lift (attach_attaches c hcompanion)) (fun _ => .modify hkeep) s₃
  · exact hkeep s₃

theorem makeFramebuffer_gentle (ht : s.target? key = some t) (hfreed : t.freed = false)
    (hstray : ∀ id, s.Stray id → P id) :
    Gentle P index reads objects s ((makeFramebuffer key t).run s).2 := by
  intro h _
  have howned := makeFramebuffer_owning ht h.toOwned
  obtain ⟨htidy, hholds⟩ := makeFramebuffer_tidy h ht hfreed hstray
  rcases run_makeFramebuffer key t s with ⟨e, hrun⟩ | ⟨s', hrun, hmade⟩ <;>
    rw [hrun] at howned htidy hholds ⊢
  · exact ⟨h.set ⟨rfl, Nat.le_refl _, rfl⟩ howned rfl, rfl, hholds, rfl, rfl⟩
  · obtain ⟨hframe, hpool, hlive, -⟩ := hmade.targets ht
    obtain ⟨_, _, rfl, -⟩ := hmade
    exact ⟨⟨howned, htidy, h.pooled.of_same hpool hlive (Nat.le_succ _) rfl, hpool ▸ h.distinct,
      h.index, h.fences, h.distinctFences⟩, rfl, hholds, hframe, hlive⟩

end Store

end DrawPass
