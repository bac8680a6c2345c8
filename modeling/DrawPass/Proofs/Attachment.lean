/-
DrawPass/Proofs/Attachment.lean

Which texture a read of a target reads.

A framebuffer is read through its first colour attachment or, if it has none, through its
depth attachment (`Framebuffer.source?`).  The framebuffer of a target is made of the
target's own texture and of that of its companion (`Store.frameOf`).  So a target is read
through its own texture, with one exception: the companion of a flat depth target takes
the place of the target itself (`Store.source`).
-/
import DrawPass.Proofs.StoreMoves

namespace DrawPass

open Gl Software

namespace Software

namespace Framebuffer

/-- The texture that a read of a framebuffer reads. -/
def source? (fb : Framebuffer) : Option Name := (fb.first?.map Attachment.texture).or fb.depth

variable (fb : Framebuffer) (texture : Name) (layer : Option UInt32)

/-- A texture attached elsewhere leaves the first colour attachment alone. -/
theorem first?_attach_of_ne {point : UInt32} (h : point ≠ Constant.colorAttachment0) :
    (fb.attach point texture layer).first? = fb.first? := by
  rw [attach]
  split
  · rfl
  · show (fb.colors.filter (fun a : Attachment => a.point != point) ++ [_]).find? _ =
      fb.colors.find? _
    have hlast : List.find? (fun a : Attachment => a.point == Constant.colorAttachment0)
        [⟨point, texture, layer⟩] = none := by
      simpa using h
    rw [List.find?_append, hlast, Option.or_none, List.find?_filter]
    congr 1
    funext a
    by_cases ha : a.point = Constant.colorAttachment0
    · simp [ha, Ne.symm h]
    · simp [ha]

/-- A texture attached as the first colour is the first colour attachment. -/
theorem first?_attach_color : (fb.attach Constant.colorAttachment0 texture layer).first? =
    some ⟨Constant.colorAttachment0, texture, layer⟩ := by
  rw [attach, if_neg (by decide)]
  show (fb.colors.filter (fun a : Attachment => a.point != Constant.colorAttachment0) ++
    [_]).find? _ = _
  have hothers : (fb.colors.filter fun a => a.point != Constant.colorAttachment0).find?
      (fun a => a.point == Constant.colorAttachment0) = none := by
    rw [List.find?_filter, List.find?_eq_none]
    intro a _
    simp
  rw [List.find?_append, hothers, Option.none_or]
  rfl

theorem attach_depth : fb.attach Constant.depthAttachment texture layer =
    { fb with depth := some texture } := rfl

end Framebuffer

/-- A read of a framebuffer that is bound. -/
theorem State.readSource?_eq {s : State} {id name : Name} {fb : Framebuffer}
    (hbound : s.boundFramebuffer = some id) (hfb : s.framebuffers.get? id = some fb)
    (hsource : fb.source? = some name) : s.readSource? = s.textures.get? name := by
  unfold State.readSource? framebuffer?
  rw [hbound]
  show ((s.framebuffers.get? id).bind fun fb => _) = _
  rw [hfb]
  show (((fb.first?.map Attachment.texture).or fb.depth).bind fun id => s.textures.get? id) = _
  have h : (fb.first?.map Attachment.texture).or fb.depth = some name := hsource
  rw [h]
  rfl

end Software

/-! ### Attaching a target -/

namespace Target

/-- The points at which the layers of a layered texture are attached. -/
def attachLayers (t : Target) (layers : List UInt32) (fb : Framebuffer) : Framebuffer :=
  layers.foldl (fun fb layer =>
    fb.attach (Constant.colorAttachment0 + layer) t.texture.name (some layer)) fb

/-- A framebuffer after a target has been attached to it. -/
def attachTo (t : Target) (fb : Framebuffer) : Framebuffer :=
  match t.layers with
  | none =>
    fb.attach (if t.format.isDepth then Constant.depthAttachment else Constant.colorAttachment0)
      t.texture.name none
  | some layers => t.attachLayers ((List.range layers.toNat).map UInt32.ofNat) fb

/-- Later layers leave the first one alone. -/
theorem first?_attachLayers (t : Target) {layers : List UInt32} (h : ∀ layer ∈ layers, layer ≠ 0)
    (fb : Framebuffer) : (t.attachLayers layers fb).first? = fb.first? := by
  induction layers generalizing fb with
  | nil => rfl
  | cons layer layers ih =>
    obtain ⟨hlayer, hlayers⟩ := List.forall_mem_cons.1 h
    have hpoint : Constant.colorAttachment0 + layer ≠ Constant.colorAttachment0 := fun e =>
      hlayer (UInt32.add_eq_left.1 e)
    exact (ih hlayers _).trans (fb.first?_attach_of_ne _ _ hpoint)

/-- Whether the texture is attached as a depth buffer. -/
def isFlatDepth (t : Target) : Bool := t.layers.isNone && t.format.isDepth

theorem attachTo_depth {t : Target} (h : t.isFlatDepth) (fb : Framebuffer) :
    t.attachTo fb = { fb with depth := some t.texture.name } := by
  obtain ⟨hlayers, hdepth⟩ := Bool.and_eq_true_iff.1 h
  rw [attachTo, Option.isNone_iff_eq_none.1 hlayers]
  show fb.attach (if t.format.isDepth then _ else _) _ _ = _
  rw [if_pos hdepth, Framebuffer.attach_depth]

/-- A texture that is no depth buffer is the first colour. -/
theorem first?_attachTo {t : Target} (h : t.isFlatDepth = false) (hlayers : t.layers ≠ some 0)
    (fb : Framebuffer) : (t.attachTo fb).first?.map Attachment.texture = some t.texture.name := by
  rw [attachTo]
  split
  · rename_i hflat
    have hdepth : t.format.isDepth = false := by
      simpa [isFlatDepth, hflat] using h
    rw [hdepth, if_neg Bool.false_ne_true, Framebuffer.first?_attach_color]
    rfl
  · rename_i layers hsome
    have hpos : layers.toNat ≠ 0 := by
      intro hzero
      have hlayer : layers = 0 := UInt32.toNat_inj.1 hzero
      exact hlayers (by rw [hsome, hlayer])
    obtain ⟨n, hn⟩ := Nat.exists_eq_succ_of_ne_zero hpos
    rw [hn, List.range_succ_eq_map, List.map_cons]
    show ((t.attachLayers _ (fb.attach _ _ _)).first?.map _) = _
    -- No later layer is 0, so none of them takes the place of the first.
    have hlater : ∀ layer ∈ (((List.range n).map Nat.succ).map UInt32.ofNat), layer ≠ 0 := by
      intro layer hlayer hzero
      obtain ⟨i, hi, rfl⟩ := List.mem_map.1 hlayer
      obtain ⟨j, hj, rfl⟩ := List.mem_map.1 hi
      have hlt := List.mem_range.1 hj
      have hmax := layers.toNat_lt
      have hof : (UInt32.ofNat (j + 1)).toNat = j + 1 :=
        UInt32.toNat_ofNat_of_lt' (by rw [UInt32.size]; omega)
      rw [hzero] at hof
      cases hof
    rw [first?_attachLayers t hlater]
    exact congrArg (Option.map Attachment.texture) (fb.first?_attach_color ..)

end Target

/-! ### The framebuffer of a target -/

/-- What never changes about the way a target is drawn into and read through. -/
structure Frame where
  /-- The number of the texture. -/
  name : Name
  isFlatDepth : Bool
  layers : Option UInt32
  companion : Companion

/-- The frame of a target. -/
def Target.frame (t : Target) : Frame where
  name := t.texture.name
  isFlatDepth := t.isFlatDepth
  layers := t.layers
  companion := t.companion

namespace Store

/-- The frame of the target of a key. -/
def frame? (s : Store State) (key : TargetKey) : Option Frame := (s.target? key).map Target.frame

/-- The texture that a target is read through: the companion of a flat depth target takes its
place. -/
def source (s : Store State) (f : Frame) : Name :=
  match f.companion.key?.bind s.frame? with
  | none => f.name
  | some companion => if f.isFlatDepth then companion.name else f.name

/-- The framebuffer that is made for a target. -/
def frameOf (s : Store State) (t : Target) : Framebuffer :=
  match t.companion.key?.bind s.target? with
  | none => t.attachTo {}
  | some companion => companion.attachTo (t.attachTo {})

variable {s : Store State}

theorem frame?_eq_some {key : TargetKey} {f : Frame} (h : s.frame? key = some f) :
    ∃ t, s.target? key = some t ∧ t.frame = f := Option.map_eq_some_iff.1 h

theorem frame?_of_target? {key : TargetKey} {t : Target} (h : s.target? key = some t) :
    s.frame? key = some t.frame := congrArg (Option.map Target.frame) h

theorem source?_attachTo {t : Target} (hlayers : t.layers ≠ some 0) :
    (t.attachTo {}).source? = some t.texture.name := by
  rcases hdepth : t.isFlatDepth with _ | _
  · rw [Framebuffer.source?, Target.first?_attachTo hdepth hlayers]
    rfl
  · rw [Target.attachTo_depth hdepth]
    rfl

/-- A target is read through its source. -/
theorem source?_frameOf {t : Target} (hlayers : t.layers ≠ some 0)
    (hcompanion : ∀ key c, t.companion.key? = some key → s.target? key = some c →
      c.isFlatDepth = true) : (s.frameOf t).source? = some (s.source t.frame) := by
  have hframe : t.frame.companion.key?.bind s.frame? =
      (t.companion.key?.bind s.target?).map Target.frame := by
    show t.companion.key?.bind s.frame? = _
    cases t.companion.key? <;> rfl
  rw [frameOf, source, hframe]
  rcases hc : t.companion.key?.bind s.target? with _ | c
  · exact source?_attachTo hlayers
  · obtain ⟨key, hkey, hlook⟩ := Option.bind_eq_some_iff.1 hc
    show (c.attachTo (t.attachTo {})).source? =
      some (if t.isFlatDepth then c.texture.name else t.texture.name)
    rw [Target.attachTo_depth (hcompanion key c hkey hlook)]
    rcases hdepth : t.isFlatDepth with _ | _
    · show ((t.attachTo {}).first?.map Attachment.texture).or _ = _
      rw [Target.first?_attachTo hdepth hlayers]
      rfl
    · rw [Target.attachTo_depth hdepth]
      rfl

/-! ### Making it -/

/-- Only one framebuffer, and the log, have changed. -/
def Reframed (id : Name) (f : Framebuffer → Framebuffer) (s s' : Store State) : Prop :=
  ∃ framebuffers log, s' = { s with device := { s.device with framebuffers, log } } ∧
    ∀ id', framebuffers.get? id' =
      if id = id' then (s.device.framebuffers.get? id').map f else s.device.framebuffers.get? id'

variable {s' s'' : Store State} {id : Name} {f g : Framebuffer → Framebuffer}

theorem Reframed.refl (s : Store State) (id : Name) : Reframed id (fun fb => fb) s s := by
  refine ⟨s.device.framebuffers, s.device.log, rfl, fun id' => ?_⟩
  cases s.device.framebuffers.get? id' <;> simp

theorem Reframed.trans (h : Reframed id f s s') (h' : Reframed id g s' s'') :
    Reframed id (fun fb => g (f fb)) s s'' := by
  obtain ⟨framebuffers, log, rfl, hf⟩ := h
  obtain ⟨framebuffers', log', rfl, hg⟩ := h'
  refine ⟨framebuffers', log', rfl, fun id' => (hg id').trans ?_⟩
  show (if id = id' then (framebuffers.get? id').map g else framebuffers.get? id') = _
  rw [hf id']
  split
  · rw [Option.map_map]
    rfl
  · rfl

theorem Reframed.bound (h : Reframed id f s s') (hbound : s.device.boundFramebuffer = some id) :
    s'.device.boundFramebuffer = some id := by
  obtain ⟨_, _, rfl, -⟩ := h
  exact hbound

theorem reframed_framebufferTexture (hbound : s.device.boundFramebuffer = some id)
    (point : UInt32) (texture : Name) (layer : Option UInt32) :
    Reframed id (·.attach point texture layer) s
      (perform (.framebufferTexture point texture layer) s).2 := by
  have hattach : s.device.attach point texture layer =
      { s.device with framebuffers :=
          s.device.framebuffers.modify id (·.attach point texture layer) } := by
    simp only [State.attach, hbound]
  refine ⟨s.device.framebuffers.modify id (·.attach point texture layer),
    .framebufferTexture point texture layer :: s.device.log, ?_, fun id' => Table.get?_modify ..⟩
  show { s with device := (s.device.attach point texture layer).record _ } = _
  rw [hattach]
  rfl

/-- What attaching a target does. -/
theorem run_attach (hbound : s.device.boundFramebuffer = some id) (t : Target) :
    ∃ s', (t.attach : StateM (Store State) Unit) s = ((), s') ∧ Reframed id t.attachTo s s' := by
  unfold Target.attach
  rcases hlayers : t.layers with _ | layers
  · refine ⟨_, rfl, ?_⟩
    have h : t.attachTo = fun fb => fb.attach
        (if t.format.isDepth then Constant.depthAttachment else Constant.colorAttachment0)
        t.texture.name none := by
      funext fb
      rw [Target.attachTo, hlayers]
    rw [h]
    exact reframed_framebufferTexture hbound ..
  · have h : t.attachTo =
        t.attachLayers ((List.range layers.toNat).map UInt32.ofNat) := by
      funext fb
      rw [Target.attachTo, hlayers]
    rw [h]
    dsimp only
    -- Which layers there are does not matter to the loop.
    generalize (List.range layers.toNat).map UInt32.ofNat = numbers
    have hloop : Reframed id (t.attachLayers numbers) s (numbers.foldl (fun s layer =>
        (perform (.framebufferTexture (Constant.colorAttachment0 + layer) t.texture.name
          (some layer)) s).2) s) := by
      clear hlayers h
      induction numbers generalizing s with
      | nil => exact .refl s id
      | cons layer numbers ih =>
        have hfirst := reframed_framebufferTexture hbound (Constant.colorAttachment0 + layer)
          t.texture.name (some layer)
        exact hfirst.trans (ih (hfirst.bound hbound))
    obtain ⟨framebuffers, log, hs', hget⟩ := hloop
    refine ⟨_, run_forIn_bind (fun layer => perform (.framebufferTexture
      (Constant.colorAttachment0 + layer) t.texture.name (some layer))) numbers _ s,
      framebuffers, .drawBuffers (numbers.map fun layer =>
        Constant.colorAttachment0 + layer).length :: log, ?_, hget⟩
    rw [hs']
    rfl

/-- The store in which the framebuffer of a target has been made. -/
def Framed (key : TargetKey) (t : Target) (s s' : Store State) : Prop :=
  ∃ framebuffers log, s' = { s with
      device := { s.device with
        lastName := s.device.lastName + 1
        framebuffers
        boundFramebuffer := some (s.device.lastName + 1)
        log }
      targets := s.targets.modify key fun t =>
        { t with framebuffer := some (s.device.lastName + 1) } } ∧
    ∀ id', framebuffers.get? id' = if s.device.lastName + 1 = id' then some (s.frameOf t)
      else s.device.framebuffers.get? id'

theorem Framed.bound {key : TargetKey} {t : Target} (h : Framed key t s s') :
    s'.device.boundFramebuffer = some (s.device.lastName + 1) := by
  obtain ⟨_, _, rfl, -⟩ := h
  rfl

theorem run_createFramebuffer_error (h : s.device.failNextFramebuffer = true) :
    ∃ e, (Attempt.create .gl .createFramebuffer : Attempt DrawError (Store State) Name).run s =
      (.error e, { s with device := { s.device with failNextFramebuffer := false } }) := by
  have hdevice : s.device.createFramebuffer = (.error "framebuffer incomplete",
      { s.device with failNextFramebuffer := false }) := by
    unfold State.createFramebuffer
    exact if_pos h
  refine ⟨.gl "framebuffer incomplete", (Attempt.run_create ..).trans ?_⟩
  exact congrArg (fun p => (Except.mapError DrawError.gl p.1, ({ s with device := p.2 } :
    Store State))) hdevice

theorem run_createFramebuffer_ok (h : s.device.failNextFramebuffer = false) :
    (Attempt.create .gl .createFramebuffer : Attempt DrawError (Store State) Name).run s =
      (.ok (s.device.lastName + 1), { s with device := { s.device with
        lastName := s.device.lastName + 1
        framebuffers := s.device.framebuffers.insert (s.device.lastName + 1) {}
        log := .createFramebuffer (s.device.lastName + 1) :: s.device.log } }) := by
  have hdevice : s.device.createFramebuffer = (.ok (s.device.lastName + 1), { s.device with
      lastName := s.device.lastName + 1
      framebuffers := s.device.framebuffers.insert (s.device.lastName + 1) {}
      log := .createFramebuffer (s.device.lastName + 1) :: s.device.log }) := by
    unfold State.createFramebuffer
    exact if_neg (by rw [h]; exact Bool.false_ne_true)
  refine (Attempt.run_create ..).trans ?_
  exact congrArg (fun p => (Except.mapError DrawError.gl p.1, ({ s with device := p.2 } :
    Store State))) hdevice

/-- Unless a failure is armed, a framebuffer is made and filled. -/
theorem run_makeFramebuffer_ok (key : TargetKey) (t : Target) {s : Store State}
    (hfail : s.device.failNextFramebuffer = false) :
    ∃ s', (makeFramebuffer key t).run s = (.ok (), s') ∧ Framed key t s s' := by
  let id := s.device.lastName + 1
  let s₁ : Store State := { s with device := { s.device with
    lastName := id
    framebuffers := s.device.framebuffers.insert id {}
    boundFramebuffer := some id
    log := .bindFramebuffer (some id) :: .createFramebuffer id :: s.device.log } }
  have hbound : s₁.device.boundFramebuffer = some id := rfl
  obtain ⟨s₂, hrun, hown⟩ := run_attach hbound t
  -- The texture of the target is attached first, then that of its companion if there is one.
  have hboth : ∃ s₃, Reframed id (fun fb => match t.companion.key?.bind s.target? with
        | none => t.attachTo fb
        | some companion => companion.attachTo (t.attachTo fb)) s₁ s₃ ∧
      (makeFramebuffer key t).run s = (.ok (), s₃.modifyTarget key fun t =>
        { t with framebuffer := some id }) := by
    have htargets : s₂.target? = s.target? := by
      obtain ⟨_, _, rfl, -⟩ := hown
      rfl
    unfold makeFramebuffer
    rw [Attempt.run_bind_ok (run_createFramebuffer_ok hfail),
      Attempt.run_bind_ok (Attempt.run_perform ..)]
    have hlift : (ExceptT.lift t.attach : Attempt DrawError (Store State) Unit).run s₁ =
        (.ok (), s₂) := by
      rw [Attempt.run_lift, hrun]
    rcases hcompanion : t.companion.key?.bind s.target? with _ | companion
    · refine ⟨s₂, hown, Eq.trans (Attempt.run_bind_ok hlift) ?_⟩
      rw [Attempt.run_bind_ok (Attempt.run_get s₂), htargets, hcompanion]
      rfl
    · obtain ⟨s₃, hrun₃, hother⟩ := run_attach (hown.bound hbound) companion
      have hlift₃ : (ExceptT.lift companion.attach : Attempt DrawError (Store State) Unit).run
          s₂ = (.ok (), s₃) := by
        rw [Attempt.run_lift, hrun₃]
      refine ⟨s₃, hown.trans hother, Eq.trans (Attempt.run_bind_ok hlift) ?_⟩
      rw [Attempt.run_bind_ok (Attempt.run_get s₂), htargets, hcompanion]
      exact Attempt.run_bind_ok hlift₃
  obtain ⟨s₃, ⟨framebuffers, log, rfl, hget⟩, hrun₃⟩ := hboth
  refine ⟨_, hrun₃, framebuffers, log, rfl, fun id' => (hget id').trans ?_⟩
  have hmade : (s₁.device.framebuffers.get? id') =
      if id = id' then some {} else s.device.framebuffers.get? id' := Table.get?_insert ..
  rw [hmade]
  by_cases h : id = id'
  · have hnew : s.device.lastName + 1 = id' := h
    simp only [if_pos h, if_pos hnew]
    cases hcompanion : t.companion.key?.bind s.target? <;> simp only [frameOf, hcompanion] <;> rfl
  · have hnew : ¬ s.device.lastName + 1 = id' := h
    simp only [if_neg h, if_neg hnew]

/-- A framebuffer is made and filled, or nothing but the failure that was armed is used up. -/
theorem run_makeFramebuffer (key : TargetKey) (t : Target) (s : Store State) :
    (∃ e, (makeFramebuffer key t).run s =
      (.error e, { s with device := { s.device with failNextFramebuffer := false } })) ∨
    ∃ s', (makeFramebuffer key t).run s = (.ok (), s') ∧ Framed key t s s' := by
  rcases hfail : s.device.failNextFramebuffer with _ | _
  · exact .inr (run_makeFramebuffer_ok key t hfail)
  · left
    obtain ⟨e, hcreate⟩ := run_createFramebuffer_error hfail
    refine ⟨e, ?_⟩
    unfold makeFramebuffer
    exact Attempt.run_bind_error hcreate

/-- A target that has been bound is in use. Its framebuffer is bound, which may have been made for
it, and unless the target is only going to be read its mip levels are stale. -/
theorem run_bindTarget_eq_ok {key : TargetKey} {readOnly : Bool} {size : UInt32 × UInt32}
    (h : (bindTarget key readOnly).run s = (.ok size, s')) :
    ∃ t s₁, s.target? key = some t ∧ t.freed = false ∧ t.size = size ∧
      ((∃ id, t.framebuffer = some id ∧
          s₁ = ((perform (.bindFramebuffer (some id)) : StateM (Store State) Unit) s).2) ∨
        Framed key t s s₁) ∧
      s' = if readOnly then s₁
        else s₁.modifyTarget key fun t => { t with mipsStale := true } := by
  unfold bindTarget at h
  obtain ⟨t, s₀, husable, hbind⟩ := Attempt.run_bind_eq_ok.1 h
  obtain ⟨rfl, ht, hlive⟩ := run_usable_eq_ok.1 husable
  dsimp only at hbind
  cases hframebuffer : t.framebuffer with
  | none =>
    rw [hframebuffer] at hbind
    obtain ⟨_, s₁, hmake, hmark⟩ := Attempt.run_bind_eq_ok.1 hbind
    rcases run_makeFramebuffer key t s₀ with ⟨e, hrefused⟩ | ⟨s₂, hmade, hframed⟩
    · cases hmake.symm.trans hrefused
    · cases hmake.symm.trans hmade
      refine ⟨t, s₁, ht, hlive, ?_, .inr hframed, ?_⟩ <;> cases readOnly <;> cases hmark <;> rfl
  | some id =>
    rw [hframebuffer] at hbind
    refine ⟨t, _, ht, hlive, ?_, .inl ⟨id, hframebuffer, rfl⟩, ?_⟩ <;> cases readOnly <;>
      cases hbind <;> rfl

/-- Binding a target changes no texel; the answer is the size of the target. -/
theorem run_bindTarget_size {key : TargetKey} {readOnly : Bool} {size : UInt32 × UInt32}
    (h : (bindTarget key readOnly).run s = (.ok size, s')) :
    (∃ t, s.target? key = some t ∧ t.size = size) ∧ s'.device.texture? = s.device.texture? := by
  obtain ⟨t, s₁, ht, -, hsize, hbound, rfl⟩ := run_bindTarget_eq_ok h
  refine ⟨⟨t, ht, hsize⟩, ?_⟩
  have htexture : s₁.device.texture? = s.device.texture? := by
    obtain ⟨id, -, rfl⟩ | ⟨_, _, rfl, -⟩ := hbound <;> rfl
  cases readOnly <;> exact htexture

/-- A target in use can be bound if it has a framebuffer or may get one. -/
theorem exists_run_bindTarget {key : TargetKey} {t : Target} (ht : s.target? key = some t)
    (hlive : t.freed = false)
    (hgrant : t.framebuffer ≠ none ∨ s.device.failNextFramebuffer = false) :
    ∃ s', (bindTarget key true).run s = (.ok t.size, s') := by
  unfold bindTarget
  rw [Attempt.run_bind_ok (run_usable_eq_ok.2 ⟨rfl, ht, hlive⟩)]
  rcases hframebuffer : t.framebuffer with _ | id
  · obtain ⟨s₁, hmake, -⟩ := run_makeFramebuffer_ok key t
      (hgrant.resolve_left (not_not_intro hframebuffer))
    dsimp only
    rw [Attempt.run_bind_ok hmake]
    exact ⟨s₁, rfl⟩
  · exact ⟨_, rfl⟩

end Store

end DrawPass
