/-
DrawPass/Proofs/ClearedView.lean

What a draw does that only clears.

A draw that has a colour to clear with and no snippets goes into a *canvas*: the default
framebuffer, or what is attached to the framebuffer of its target, which for a story is the oldest
slot.  Everything but the clear leaves all texels as they are, so the draw writes the texels of the
canvas in the view and no others (`clear_touches_view`).  The colours become the colour of the
clear and the depth becomes one, unless it is kept.

The depth comes last.  A texture that is attached both as a colour and as the depth therefore ends
up with ones in the layer that is both.  That takes a target with more than 32 layers, whose layer
32 is attached as a depth buffer (`Mounts.apart`).
-/
import DrawPass.Proofs.Clears
import DrawPass.Proofs.FramebufferHistory
import DrawPass.Proofs.Setters

namespace DrawPass

open Gl Software

/-! ### What a draw goes into -/

/-- The size of what a draw goes into, and the textures and layers that are attached there. -/
structure Canvas where
  size : UInt32 × UInt32
  colors : List (Option Name × UInt32)
  depth : List (Option Name × UInt32)

/-- The target that a draw goes into: of a story, the oldest slot. -/
def Resolved.writeTarget? {σ : Type} (r : Resolved) (s : Store σ) : Option TargetKey :=
  match r with
  | screen => none
  | texture key => some key
  | story key => (s.story? key).map Story.writeSlot

/-- What a draw goes into that has settled on a target: the default framebuffer, or what is attached
to the framebuffer of the target. -/
inductive Canvas.Of (settled s : Store State) : Resolved → Canvas → Prop where
  | screen : Of settled s .screen
      ⟨(settled.device.drawingBuffer.width, settled.device.drawingBuffer.height), [(none, 0)], []⟩
  | target {resolved : Resolved} {key : TargetKey} {t : Target} {id : Name} {fb : Framebuffer}
      (hkey : resolved.writeTarget? settled = some key) (ht : s.target? key = some t)
      (hid : t.framebuffer = some id) (hfb : s.device.framebuffers.get? id = some fb) :
      Of settled s resolved ⟨t.size, fb.colors.map fun a => (some a.texture, a.layer.getD 0),
        fb.depth.toList.map fun id => (some id, 0)⟩

namespace Store

variable {s s' : Store State} {key : TargetKey}

/-- A target that has been bound is what the device draws into. -/
theorem run_bindTarget_canvas {settled : Store State} {resolved : Resolved}
    (hs : s.Mounted) (hkey : resolved.writeTarget? settled = some key) {size : UInt32 × UInt32}
    (h : (bindTarget key false).run s = (.ok size, s')) :
    ∃ canvas, Canvas.Of settled s' resolved canvas ∧ canvas.size = size ∧
      s'.device.colorTargets = canvas.colors ∧ s'.device.depthTargets = canvas.depth := by
  obtain ⟨id, hid, hbound⟩ := run_bindTarget_ok h
  obtain ⟨⟨t, ht, rfl⟩, -⟩ := run_bindTarget_size h
  have hsteady : Steady s s' := (bindTarget_moves permitsBinding_steady key false).of_run h
  have hmounted : s'.Mounted :=
    ((bindTarget_moves permits_mounting.toBinding key false).of_run h hs).1
  have hbody : s'.body? key = some t.body := by rw [hsteady.body, body?_of_target? ht]
  obtain ⟨t', ht', hsame⟩ := body?_eq_some hbody
  obtain ⟨c, -, hfb⟩ := hmounted.mounted key t'.frame id (frame?_of_target? ht') hid
  refine ⟨_, .target hkey ht' ((framebuffer?_of_target? ht').symm.trans hid) hfb,
    congrArg Body.size hsame, ?_, ?_⟩
  · unfold State.colorTargets State.framebuffer?
    rw [hbound, Option.bind_some, hfb]
  · unfold State.depthTargets State.framebuffer?
    rw [hbound, Option.bind_some, hfb]
    rfl

end Store

namespace Renderer

variable {r r' : Renderer State} {resolved : Resolved}

/-- Binding what a draw has settled on changes no texel and makes it what the device draws into. -/
theorem run_bind_canvas (hr : r.store.Mounted) {size : UInt32 × UInt32}
    (h : (bind resolved).run r = (.ok size, r')) :
    r'.store.device.texture? = r.store.device.texture? ∧
      ∃ canvas, Canvas.Of r.store r'.store resolved canvas ∧ canvas.size = size ∧
        r'.store.device.colorTargets = canvas.colors ∧
        r'.store.device.depthTargets = canvas.depth := by
  -- A story is bound as its slot, once it has been turned.
  have hslot {r₁ : Renderer State} {key : TargetKey} (hs : r₁.store.Mounted)
      (hkey : resolved.writeTarget? r.store = some key)
      (h : (tryOnStore (Store.bindTarget key false) : Attempt DrawError (Renderer State) _).run
        r₁ = (.ok size, r')) :
      r'.store.device.texture? = r₁.store.device.texture? ∧
        ∃ canvas, Canvas.Of r.store r'.store resolved canvas ∧ canvas.size = size ∧
          r'.store.device.colorTargets = canvas.colors ∧
          r'.store.device.depthTargets = canvas.depth := by
    rw [run_tryOnStore] at h
    injection h with hok hstore
    subst hstore
    have hrun : (Store.bindTarget key false).run r₁.store =
        (.ok size, ((Store.bindTarget key false).run r₁.store).2) := Prod.ext hok rfl
    exact ⟨(Store.run_bindTarget_size hrun).2, Store.run_bindTarget_canvas hs hkey hrun⟩
  unfold bind at h
  cases resolved with
  | screen =>
    cases h
    exact ⟨rfl, _, .screen, rfl, rfl, rfl⟩
  | texture key => exact hslot hr rfl h
  | story key =>
    rw [Attempt.run_bind_ok (Attempt.run_modify _ r), Attempt.run_bind_ok (Attempt.run_get _)] at h
    have hturned : (r.store.rotate key).story? key = (r.store.story? key).map Story.rotate := by
      rw [Store.story?, Store.rotate, Table.get?_modify, if_pos rfl]
      rfl
    have htarget : Resolved.target? (.story key) (r.store.rotate key) =
        (r.store.story? key).map Story.writeSlot := by
      rw [Resolved.target?, hturned]
      cases r.store.story? key with
      | none => rfl
      | some story => exact congrArg some story.current_rotate
    simp only [htarget] at h
    cases hstory : r.store.story? key with
    | none =>
      rw [hstory] at h
      cases h
    | some story =>
      rw [hstory] at h
      have hmounted : ({ r with store := r.store.rotate key } : Renderer State).store.Mounted :=
        (Store.rotate_mounting r.store key hr).1
      have hbound := hslot hmounted (congrArg (Option.map Story.writeSlot) hstory) h
      exact hbound

end Renderer

/-! ### The view -/

namespace Params.Options

/-- Whether a place lies in the view, or in the whole target if there is no view. -/
def InView (o : Options) (size : UInt32 × UInt32) (x y : Int32) : Prop :=
  match o.view with
  | some view => view.Contains x y
  | none => (0 ≤ x.toInt ∧ x.toInt < size.1.toNat) ∧ 0 ≤ y.toInt ∧ y.toInt < size.2.toNat

/-- The ends of the view can be written as signed 32-bit integers. -/
def ViewFits (o : Options) (size : UInt32 × UInt32) : Prop :=
  match o.view with
  | some view => view.EndsFit
  | none => size.1.toNat ≤ 2147483647 ∧ size.2.toNat ≤ 2147483647

variable {o : Options} {size : UInt32 × UInt32}

theorem viewRect_contains (h : o.ViewFits size) :
    (o.viewRect size.1 size.2).EndsFit ∧
      ∀ x y, (o.viewRect size.1 size.2).Contains x y ↔ o.InView size x y := by
  unfold ViewFits at h
  unfold viewRect InView
  cases hview : o.view with
  | some view =>
    rw [hview] at h
    exact ⟨h, fun _ _ => Iff.rfl⟩
  | none =>
    rw [hview] at h
    have hwidth := Geometry.toInt_of_le_maxCount (UInt32.le_iff_toNat_le.2 h.1)
    have hheight := Geometry.toInt_of_le_maxCount (UInt32.le_iff_toNat_le.2 h.2)
    have hzero : (0 : Int32).toInt = 0 := rfl
    constructor
    · constructor <;> simp only [Option.getD_none, hwidth, hheight, hzero] <;> omega
    · intro x y
      simp only [Rect.Contains, Option.getD_none, hwidth, hheight, hzero, zero_add]

end Params.Options

/-! ### Draws that only clear -/

/-- What a clear has made of the texels of one texture. -/
structure ClearedTexture (o : Params.Options) (color : Color) (canvas : Canvas)
    (id : Option Name) (t t' : Texture) : Prop where
  /-- A texel of a colour in the view has the colour of the clear, at the precision of the storage,
  unless it is one of the depth as well, which comes last. -/
  color : ∀ x y layer, (id, layer) ∈ canvas.colors →
    (o.depthTest ≠ .keep → (id, layer) ∉ canvas.depth) → o.InView canvas.size x y →
    t.Holds x y layer → t'.stored? x y layer = some (t.quantized color)
  /-- A texel of the depth in the view is one, unless depth is kept. -/
  depth : ∀ x y layer, (id, layer) ∈ canvas.depth → o.depthTest ≠ .keep →
    o.InView canvas.size x y → t.Holds x y layer →
    t'.stored? x y layer = some (Vector.ofFn fun c => if c.val < t.channels then .one else .zero)
  /-- Every other texel is what it was. -/
  rest : ∀ x y layer, ¬ (o.InView canvas.size x y ∧ ((id, layer) ∈ canvas.colors ∨
    o.depthTest ≠ .keep ∧ (id, layer) ∈ canvas.depth)) → t'.stored? x y layer = t.stored? x y layer

/-- A clear changes no texture but in the texels that it writes, and no texture comes or goes. -/
def Cleared (o : Params.Options) (color : Color) (canvas : Canvas) (d d' : State) : Prop :=
  ∀ id, Option.Rel (fun t t' => t.Recolored t' ∧
    (t.Countable → ClearedTexture o color canvas id t t')) (d.texture? id) (d'.texture? id)

/-- Painting the colours and then the depth clears. -/
theorem Cleared.of_painted {o : Params.Options} {color : Color} {canvas : Canvas} {d d' : State}
    {view : Rect} {c : Contents} (hfull : d.Full)
    (hview : ∀ x y, view.Contains x y ↔ o.InView canvas.size x y)
    (hcolors : Contents.Painted (fun id x y layer => view.Contains x y ∧
      (id, layer) ∈ canvas.colors) color d.texture? c)
    (hdepth : Contents.Painted (fun id x y layer => o.depthTest.writes ∧ view.Contains x y ∧
      (id, layer) ∈ canvas.depth) (Color.uniform .one) c d'.texture?) :
    Cleared o color canvas d d' := by
  have hwrites : o.depthTest.writes ↔ o.depthTest ≠ .keep := bne_iff_ne
  intro id
  refine Contents.rel_trans (fun t t' t'' ht h h' => ?_) (hcolors id) (hdepth id)
  refine ⟨IsTrans.trans t _ _ h.toRecolored h'.toRecolored, fun hcount => ?_⟩
  -- The first step takes the texture to one between, and the depth starts from that.
  have hcount' := h.countable hcount
  have hstored {x y : Int32} {layer : UInt32} (hholds : t.Holds x y layer) :
      ∃ old, t.stored? x y layer = some old :=
    Option.isSome_iff_exists.1 ((Texture.isSome_stored? hcount (hfull id t ht)).2 hholds)
  constructor
  case color =>
    intro x y layer hcolor hdeep hin hholds
    obtain ⟨old, hold⟩ := hstored hholds
    rw [h'.kept hcount' fun hboth => hdeep (hwrites.1 hboth.1) hboth.2.2,
      h.written hcount ⟨(hview x y).2 hin, hcolor⟩, hold]
    rfl
  case depth =>
    intro x y layer hdeep hkeep hin hholds
    have hstored' : ∃ old, t'.stored? x y layer = some old := by
      obtain ⟨old, hold⟩ := hstored hholds
      by_cases hcolor : (id, layer) ∈ canvas.colors
      · rw [h.written hcount ⟨(hview x y).2 hin, hcolor⟩, hold]
        exact ⟨_, rfl⟩
      · rw [h.kept hcount fun hboth => hcolor hboth.2]
        exact ⟨old, hold⟩
    obtain ⟨old, hold⟩ := hstored'
    rw [h'.written hcount' ⟨hwrites.2 hkeep, (hview x y).2 hin, hdeep⟩, hold,
      Texture.quantized_one, h.frame]
    rfl
  case rest =>
    intro x y layer hout
    rw [h'.kept hcount' fun hboth => hout ⟨(hview x y).1 hboth.2.1, .inr
        ⟨hwrites.1 hboth.1, hboth.2.2⟩⟩,
      h.kept hcount fun hboth => hout ⟨(hview x y).1 hboth.1, .inl hboth.2⟩]

namespace Software.State

/-- The device before a clear of a view: the depth mask and the scissor are set. -/
def scissored (d : State) (writes : Bool) (view : Rect) : State :=
  { d with
    depthMask := writes
    enabled := Constant.scissorTest :: d.enabled.filter (· != Constant.scissorTest)
    scissor := view
    log := .scissor view :: .enable Constant.scissorTest :: .depthMask writes :: d.log }

/-- The device after a clear of a view: the depth mask and the scissor are put back. -/
def unscissored (d : State) : State :=
  { d with
    depthMask := true
    enabled := d.enabled.filter (· != Constant.scissorTest)
    log := .depthMask true :: .disable Constant.scissorTest :: d.log }

theorem perform_scissored (d : State) (writes : Bool) (view : Rect) :
    (((d.perform (.depthMask writes)).2.perform (.enable Constant.scissorTest)).2.perform
      (.scissor view)).2 = d.scissored writes view := rfl

theorem perform_unscissored (d : State) :
    ((d.perform (.disable Constant.scissorTest)).2.perform (.depthMask true)).2 =
      d.unscissored := rfl

/-- The device with its view cleared. -/
def wiped (d : State) (writes : Bool) (view : Rect) (color : Color) : State :=
  ((d.scissored writes view).perform
    (.clear color (Constant.colorBufferBit ||| Constant.depthBufferBit))).2.unscissored

theorem isEnabled_scissored (d : State) (writes : Bool) (view : Rect) :
    (d.scissored writes view).isEnabled Constant.scissorTest := by
  unfold isEnabled
  exact List.contains_iff_mem.2 List.mem_cons_self

theorem colorTargets_scissored (d : State) (writes : Bool) (view : Rect) :
    (d.scissored writes view).colorTargets = d.colorTargets := rfl

theorem depthTargets_scissored (d : State) (writes : Bool) (view : Rect) :
    (d.scissored writes view).depthTargets = d.depthTargets := rfl

theorem texture?_scissored (d : State) (writes : Bool) (view : Rect) :
    (d.scissored writes view).texture? = d.texture? := rfl

theorem texture?_unscissored (d : State) (c : Call) :
    (d.record c).unscissored.texture? = d.texture? := rfl

theorem framebuffers_unscissored (d : State) (c : Call) :
    (d.record c).unscissored.framebuffers = d.framebuffers := rfl

theorem device_clear (d : State) (color : Color) (mask : UInt32) :
    (d.perform (.clear color mask)).2 = (d.clear color mask).record (.clear color mask) := rfl

theorem framebuffers_wiped (d : State) (writes : Bool) (view : Rect) (color : Color) :
    (d.wiped writes view color).framebuffers = d.framebuffers := by
  rw [wiped, device_clear, framebuffers_unscissored]
  have hsame : SameScissor (d.scissored writes view) ((d.scissored writes view).clear color
      (Constant.colorBufferBit ||| Constant.depthBufferBit)) :=
    clear_moves (fun d id f _ => sameScissor_modifyTexture d id f) _ color _
  exact hsame.framebuffers

/-- A clear of a view paints the colours in the view, and then the depth if it is written. -/
theorem wiped_paints (d : State) (writes : Bool) {view : Rect} (hview : view.EndsFit)
    (color : Color) :
    ∃ c : Contents,
      Contents.Painted (fun id x y layer => view.Contains x y ∧ (id, layer) ∈ d.colorTargets) color
        d.texture? c ∧
      Contents.Painted (fun id x y layer => writes ∧ view.Contains x y ∧
        (id, layer) ∈ d.depthTargets) (Color.uniform .one) c
        (d.wiped writes view color).texture? := by
  have hpaint := clear_paints (d.isEnabled_scissored writes view) hview color
  rw [colorTargets_scissored, depthTargets_scissored, texture?_scissored] at hpaint
  rw [wiped, device_clear, texture?_unscissored]
  exact hpaint

end Software.State

namespace Renderer

variable {r r' : Renderer State} {plan : Plan} {color : Color}

theorem withDevice_withDevice (r : Renderer State) (d d' : State) :
    (r.withDevice d).withDevice d' = r.withDevice d' := rfl

theorem device_withDevice (r : Renderer State) (d : State) :
    (r.withDevice d).store.device = d := rfl

/-- A command acts on the device. -/
theorem run_perform_bind {α β : Type} (command : Command α) (f : α → StateM (Renderer State) β)
    (r : Renderer State) : ((perform command : StateM (Renderer State) α) >>= f) r =
      f (r.store.device.perform command).1
        (r.withDevice (r.store.device.perform command).2) := rfl

/-- A draw without snippets clears what is bound. -/
theorem run_render_clear (hclear : plan.options.clear = some color)
    (hstages : plan.options.hasStages = false) (blend : Option Blend.State)
    (uniforms : Uniform.Values) (size : UInt32 × UInt32) (r : Renderer State) :
    (render plan blend uniforms size).run r = (.ok (), r.withDevice
      (r.store.device.wiped plan.options.depthTest.writes
        (plan.options.viewRect size.1 size.2) color)) := by
  have hclearView (view : Rect) (d : State) : (clearView view color : StateM (Renderer State) Unit)
      (r.withDevice d) = ((), r.withDevice ((((d.perform (.enable Constant.scissorTest)).2.perform
        (.scissor view)).2.perform (.clear color
          (Constant.colorBufferBit ||| Constant.depthBufferBit))).2.perform
            (.disable Constant.scissorTest)).2) := by
    unfold clearView
    rw [run_perform_bind, run_perform_bind, run_perform_bind]
    simp only [device_withDevice, withDevice_withDevice]
    rfl
  have hmask (write : Bool) (r : Renderer State) :
      (Attempt.perform (.depthMask write) : Attempt DrawError (Renderer State) Unit).run r =
        (.ok (), r.withDevice (r.store.device.perform (.depthMask write)).2) := rfl
  have hlift (view : Rect) (d : State) :
      (ExceptT.lift (clearView view color) : Attempt DrawError (Renderer State) Unit).run
        (r.withDevice d) = (.ok (), (clearView view color (r.withDevice d)).2) := rfl
  unfold render
  simp only [hclear, hstages]
  rw [Attempt.run_bind_ok (hmask _ r), Attempt.run_bind_ok (hlift _ _), hclearView,
    if_neg Bool.false_ne_true, hmask, device_withDevice, withDevice_withDevice,
    State.perform_scissored, State.perform_unscissored, State.wiped]

end Renderer

/-! ### Colours and depth -/

namespace Software.Framebuffer

/-- What is attached at another point than that of the depth is a colour. -/
theorem attach_of_ne (fb : Framebuffer) {point : UInt32} (texture : Name) (layer : Option UInt32)
    (hpoint : point ≠ Constant.depthAttachment) :
    (fb.attach point texture layer).depth = fb.depth ∧
      ∀ a ∈ (fb.attach point texture layer).colors, a.texture = texture ∨ a ∈ fb.colors := by
  unfold attach
  rw [if_neg (by simpa using hpoint)]
  refine ⟨rfl, fun a ha => ?_⟩
  rcases List.mem_append.1 ha with ha | ha
  · exact .inr (List.mem_filter.1 ha).1
  · exact .inl (congrArg Attachment.texture (List.mem_singleton.1 ha))

end Software.Framebuffer

namespace Frame

variable {f : Frame}

/-- A target with few layers that is no flat depth target is attached as colours only. -/
theorem attachTo_of_few (hfew : ∀ n, f.layers = some n → n ≤ 32) (hflat : f.isFlatDepth = false)
    (fb : Framebuffer) : (f.attachTo fb).depth = fb.depth ∧
      ∀ a ∈ (f.attachTo fb).colors, a.texture = f.name ∨ a ∈ fb.colors := by
  unfold attachTo
  split
  · rw [hflat]
    exact fb.attach_of_ne f.name none (by decide)
  · rename_i n hn
    have hlayers : ∀ layer ∈ layerNumbers n, Constant.colorAttachment0 + layer ≠
        Constant.depthAttachment := fun layer hlayer hpoint => by
      rw [Framebuffer.colorPoint_eq_depth] at hpoint
      rw [hpoint, mem_layerNumbers] at hlayer
      exact UInt32.not_lt.2 (hfew n hn) hlayer
    change ((layerNumbers n).foldl _ fb).depth = _ ∧ ∀ a ∈ ((layerNumbers n).foldl _ fb).colors, _
    generalize layerNumbers n = layers at hlayers
    induction layers generalizing fb with
    | nil => exact ⟨rfl, fun a ha => .inr ha⟩
    | cons layer layers ih =>
      obtain ⟨hlayer, hrest⟩ := List.forall_mem_cons.1 hlayers
      obtain ⟨hdepth, hcolors⟩ := fb.attach_of_ne f.name (some layer) hlayer
      obtain ⟨hdepth', hcolors'⟩ := ih (fb.attach _ f.name (some layer)) hrest
      refine ⟨hdepth'.trans hdepth, fun a ha => ?_⟩
      rcases hcolors' a ha with ha | ha
      · exact .inl ha
      · exact hcolors a ha

end Frame

namespace Store

variable {s : Store State} {key : TargetKey} {f : Frame}

/-- No target has more than 32 layers. -/
def FewLayers (s : Store State) : Prop :=
  ∀ key t n, s.target? key = some t → t.layers = some n → n ≤ 32

theorem FewLayers.frame (h : s.FewLayers) (hf : s.frame? key = some f) :
    ∀ n, f.layers = some n → n ≤ 32 := by
  obtain ⟨t, ht, rfl⟩ := frame?_eq_some hf
  exact fun n => h key t n ht

/-- As long as no target has more than 32 layers, no texture is attached both as a colour and as the
depth. -/
theorem Mounts.apart (hs : s.Owned) (hfew : s.FewLayers) (hf : s.frame? key = some f)
    {companion : Option Frame} (h : s.Mounts f companion) {name : Name}
    (hdepth : (f.framebuffer companion).depth = some name) :
    ∀ a ∈ (f.framebuffer companion).colors, a.texture ≠ name := by
  have hflat : f.isFlatDepth = true → f.attachTo {} = { depth := some f.name } := fun hflat =>
    Frame.attachTo_depth (layers_of_isFlatDepth hf hflat) hflat {}
  have hcolor : f.isFlatDepth = false → (f.attachTo {}).depth = none ∧
      ∀ a ∈ (f.attachTo {}).colors, a.texture = f.name := fun hflat => by
    obtain ⟨hnone, hcolors⟩ := Frame.attachTo_of_few (hfew.frame hf) hflat {}
    exact ⟨hnone, fun a ha => (hcolors a ha).resolve_right List.not_mem_nil⟩
  intro a ha
  cases h with
  | alone =>
    change (f.attachTo {}).depth = _ at hdepth
    change a ∈ (f.attachTo {}).colors at ha
    cases h : f.isFlatDepth with
    | true =>
      rw [hflat h] at ha
      cases ha
    | false =>
      rw [(hcolor h).1] at hdepth
      cases hdepth
  | @beside own c hown hc =>
    change (c.attachTo (f.attachTo {})).depth = _ at hdepth
    change a ∈ (c.attachTo (f.attachTo {})).colors at ha
    -- The companion has a texture of its own, unless it is the target itself.
    have hsame (hname : c.name = f.name) : c = f := by
      have hkey := hs.ownTexture own key c f hc hf hname
      rw [hkey, hf] at hc
      exact (Option.some.inj hc).symm
    cases hc' : c.isFlatDepth with
    | true =>
      rw [Frame.attachTo_depth (layers_of_isFlatDepth hc hc') hc'] at hdepth ha
      cases h : f.isFlatDepth with
      | true =>
        rw [hflat h] at ha
        cases ha
      | false =>
        rw [(hcolor h).2 a ha]
        rintro rfl
        rw [← hsame (Option.some.inj hdepth), hc'] at h
        cases h
    | false =>
      obtain ⟨hkept, hcolors⟩ := Frame.attachTo_of_few (hfew.frame hc) hc' (f.attachTo {})
      rw [hkept] at hdepth
      cases h : f.isFlatDepth with
      | true =>
        rw [hflat h] at hdepth ha hcolors
        rw [(hcolors a ha).resolve_right List.not_mem_nil]
        rintro rfl
        rw [← hsame (Option.some.inj hdepth).symm, hc'] at h
        cases h
      | false =>
        rw [(hcolor h).1] at hdepth
        cases hdepth

end Store

theorem Canvas.Of.congr {settled s s' : Store State} {resolved : Resolved} {canvas : Canvas}
    (h : Canvas.Of settled s resolved canvas) (htargets : s'.targets = s.targets)
    (hframebuffers : s'.device.framebuffers = s.device.framebuffers) :
    Canvas.Of settled s' resolved canvas := by
  cases h with
  | screen => exact .screen
  | @target _ key t id fb hkey ht hid hfb =>
    exact .target hkey (by rwa [Store.target?, htargets]) hid (hframebuffers ▸ hfb)

/-- As long as no target has more than 32 layers, nothing is attached twice. -/
theorem Canvas.Of.apart {settled s : Store State} {resolved : Resolved} {canvas : Canvas}
    (hs : s.Mounted) (hfew : s.FewLayers) (h : Canvas.Of settled s resolved canvas) :
    ∀ piece ∈ canvas.depth, piece ∉ canvas.colors := by
  cases h with
  | screen => exact nofun
  | @target _ key t id fb _ ht hid hfb =>
    obtain ⟨c, hmounts, hget⟩ := hs.mounted key t.frame id (Store.frame?_of_target? ht)
      ((Store.framebuffer?_of_target? ht).trans hid)
    cases hget.symm.trans hfb
    intro piece hdepth hcolor
    obtain ⟨name, hname, rfl⟩ := List.mem_map.1 hdepth
    obtain ⟨a, ha, heq⟩ := List.mem_map.1 hcolor
    exact hmounts.apart hs.toOwned hfew (Store.frame?_of_target? ht) (Option.mem_toList.1 hname)
      a ha (Option.some.inj (congrArg Prod.fst heq))

/-! ### Runs -/

/-- Settling on a target keeps storage full. -/
theorem Renderer.settle_keepsFull {r settled : Renderer State} {bag : Params.Bag}
    {destination : Destination} {result : Except DrawError (Plan × Option Blend.State × Resolved)}
    (h : (settle bag destination).run r = (result, settled)) (hr : r.store.device.Full) :
    settled.store.device.Full := by
  have hparts : Store.PermitsParts (Store.OnDevice State.KeepsFull) :=
    Store.permitsParts_onDevice State.keepsFull_perform
  have hpermits : Store.Permits (Store.OnDevice State.KeepsFull) fun _ => True :=
    hparts.permits fun _ _ _ _ _ => Store.make_moves hparts (fun s _ => refl s.device) _ _
  exact ((settle_moves hpermits bag fun _ _ => trivial).of_run h rfl).2.1 hr

/-- A draw that only clears, and goes through, writes the view of what it goes into and nothing
else.  As long as no target has more than 32 layers, nothing there is both a colour and the depth,
so every texel of a colour in the view gets the colour of the clear. -/
theorem clear_touches_view {r r' : Renderer State} (hr : Reachable r) {bag : Params.Bag}
    {destination : Destination} {plan : Plan} {color : Color} {resolved : Resolved}
    (hplan : Plan.ofBag bag = .ok plan) (hclear : plan.options.clear = some color)
    (hstages : plan.options.hasStages = false)
    (hdraw : (Renderer.draw bag destination).run r = (.ok resolved, r')) :
    ∃ blend settled canvas,
      (Renderer.settle bag destination).run r = (.ok (plan, blend, resolved), settled) ∧
      Canvas.Of settled.store r'.store resolved canvas ∧
      (r'.store.FewLayers → ∀ piece ∈ canvas.depth, piece ∉ canvas.colors) ∧
      (plan.options.ViewFits canvas.size →
        Cleared plan.options color canvas settled.store.device r'.store.device) := by
  have hafter : ((Renderer.draw bag destination).run r).2 = r' := congrArg Prod.snd hdraw
  have hr' : Reachable r' := hafter ▸ hr.step (.draw bag destination) trivial
  rw [Renderer.draw_eq] at hdraw
  obtain ⟨⟨plan', blend, resolved'⟩, settled, hsettle, hpaint⟩ := Attempt.run_bind_eq_ok.1 hdraw
  cases (Renderer.run_settle_eq_ok hsettle).1.symm.trans hplan
  have hpaints : Renderer.onlyPrepares plan destination = false := by
    cases destination with
    | spec spec =>
      show (plan.options.clear.isNone && !plan.options.hasStages) = false
      rw [hclear]
      rfl
    | _ => rfl
  dsimp only at hpaint
  rw [hpaints] at hpaint
  obtain ⟨⟨⟩, after, hpaint, hreturn⟩ := Attempt.run_bind_eq_ok.1 hpaint
  cases hreturn
  -- Settling on a target keeps the framebuffers what they should be and the storage full.
  have hmounted : settled.store.Mounted :=
    ((Renderer.settle_moves Store.permits_mounting bag fun _ _ => trivial).of_run hsettle rfl).2.1
      hr.mounted |>.1
  have hfull : settled.store.device.Full :=
    Renderer.settle_keepsFull hsettle hr.full
  unfold Renderer.paint at hpaint
  rw [Attempt.run_bind_ok (Attempt.run_lift _ settled), Renderer.withSource_state] at hpaint
  obtain ⟨size, bound, hbind, hrender⟩ := Attempt.run_bind_eq_ok.1 hpaint
  rw [Renderer.run_render_clear hclear hstages] at hrender
  cases hrender
  obtain ⟨htexels, canvas, hcanvas, rfl, hcolors, hdepth⟩ := Renderer.run_bind_canvas hmounted hbind
  have hframebuffers := bound.store.device.framebuffers_wiped plan.options.depthTest.writes
    (plan.options.viewRect canvas.size.1 canvas.size.2) color
  have hof : Canvas.Of settled.store (bound.withDevice (bound.store.device.wiped
      plan.options.depthTest.writes (plan.options.viewRect canvas.size.1 canvas.size.2)
        color)).store _ canvas := hcanvas.congr rfl hframebuffers
  refine ⟨blend, settled, canvas, hsettle, hof, fun hfew => hof.apart hr'.mounted hfew,
    fun hfits => ?_⟩
  obtain ⟨hends, hview⟩ := Params.Options.viewRect_contains hfits
  obtain ⟨c, hpaintColors, hpaintDepth⟩ := bound.store.device.wiped_paints
    plan.options.depthTest.writes hends color
  rw [hcolors, htexels] at hpaintColors
  rw [hdepth] at hpaintDepth
  exact Cleared.of_painted hfull hview hpaintColors hpaintDepth

/-- A renderer on a device of two pixels. -/
def Renderer.twoPixels : Renderer State :=
  (Renderer.create { indexCapacity := 1 } { device := State.new 2 1 }).toOption.get rfl

/-- The bag of a draw that clears the right one of two pixels. -/
def Params.Bag.clearRight : Params.Bag :=
  .ofList [("Clear", .uniform (.float .one)), ("View", .uniform (.intVector [1, 0, 1, 1]))]

/-- A clear of the right half of a screen of two pixels. -/
theorem clear_touches_view_of_right_half :
    ∃ resolved r' t',
      (Renderer.draw .clearRight .screen).run Renderer.twoPixels = (.ok resolved, r') ∧
      r'.store.device.texture? none = some t' ∧
      t'.stored? 1 0 0 = some (Color.uniform .one) ∧
      t'.stored? 0 0 0 = some (Color.uniform .zero) := by
  have hcreate : Renderer.create { indexCapacity := 1 } { device := State.new 2 1 } =
    .ok Renderer.twoPixels := rfl
  obtain ⟨plan, hplan, hclear, hstages, hview⟩ : ∃ plan, Plan.ofBag .clearRight = .ok plan ∧
      plan.options.clear = some (Color.uniform .one) ∧ plan.options.hasStages = false ∧
      plan.options.view = some ⟨1, 0, 1, 1⟩ := ⟨_, rfl, by decide +kernel, rfl, by decide +kernel⟩
  have hok : ((Renderer.draw .clearRight .screen).run Renderer.twoPixels).1.isOk := by
    decide +kernel
  rcases hdraw : (Renderer.draw .clearRight .screen).run Renderer.twoPixels with ⟨e | resolved, r'⟩
  · rw [hdraw] at hok
    cases hok
  obtain ⟨blend, settled, canvas, hsettle, hcanvas, -, hcleared⟩ :=
    clear_touches_view (.start hcreate) hplan hclear hstages hdraw
  obtain ⟨-, r₁, hstore, -, hresolve⟩ := Renderer.run_settle_eq_ok hsettle
  cases hresolve
  cases hcanvas with
  | target hkey => cases hkey
  | screen =>
    have hfits : plan.options.ViewFits (settled.store.device.drawingBuffer.width,
        settled.store.device.drawingBuffer.height) := by
      unfold Params.Options.ViewFits
      rw [hview]
      exact ⟨by decide, by decide⟩
    have hrel : Option.Rel _ (some settled.store.device.drawingBuffer)
      (some r'.store.device.drawingBuffer) := hcleared hfits none
    rw [hstore] at hrel
    cases hrel with
    | some hrel =>
      have htexels := hrel.2 (by decide +kernel)
      have hin : plan.options.InView (Renderer.twoPixels.store.device.drawingBuffer.width,
          Renderer.twoPixels.store.device.drawingBuffer.height) 1 0 := by
        unfold Params.Options.InView
        rw [hview]
        decide
      have hout : ¬ plan.options.InView (Renderer.twoPixels.store.device.drawingBuffer.width,
          Renderer.twoPixels.store.device.drawingBuffer.height) 0 0 := by
        unfold Params.Options.InView
        rw [hview]
        decide
      refine ⟨_, r', _, rfl, rfl, ?_, ?_⟩
      · rw [htexels.color 1 0 0 List.mem_cons_self (fun _ => List.not_mem_nil) hin
          (by decide +kernel)]
        decide +kernel
      · rw [htexels.rest 0 0 0 fun h => hout h.1]
        decide +kernel

end DrawPass
