/-
DrawPass/Proofs/Extents.lean

Which steps change the size of anything.

Of a target its *body* is what it is apart from its contents and from how it is bound and
read: its texture, its layers, its companion, its size, and whether it has been freed.  A
step is steady if it leaves the bodies of all targets, the extents of all textures and the
slots of all stories as they are, except that a story may have turned (`Store.Steady`).
Everything that binds, clears, draws, samples and reads is steady.  What is left are the
steps that make, change and free targets, and they are described exactly: new storage is
`Store.respecified`, the end of a target is `Released`, and a new target is `Added`.
-/
import DrawPass.Proofs.Mounted
import Mathlib.Data.Multiset.Defs

namespace DrawPass

open Gl Readback Software

/-! ### Textures -/

namespace Software.State

variable (d : State)

theorem textureSize?_eq (id : Name) :
    d.textureSize? id = (d.textures.get? id).map Texture.extent := rfl

/-- A texture whose contents change keeps its extent. -/
theorem textureSize?_modifyTexture (id : Option Name) {f : Texture → Texture}
    (hf : ∀ t, (f t).extent = t.extent) :
    (d.modifyTexture id f).textureSize? = d.textureSize? := by
  cases id with
  | none => rfl
  | some id =>
    funext id'
    change ((d.textures.modify id f).get? id').map Texture.extent = _
    rw [Table.get?_modify, textureSize?_eq]
    split
    · rw [Option.map_map]
      exact congrArg (fun g => (d.textures.get? id').map g) (funext hf)
    · rfl

/-- The textures have the extents that they had. -/
def SameExtents (d d' : State) : Prop := d'.textureSize? = d.textureSize?

instance : IsPreorder State SameExtents where
  refl _ := rfl
  trans _ _ _ h h' := h'.trans h

/-- A command that makes, deletes and specifies no texture changes no extent. -/
theorem sameExtents_perform {α : Type} (command : Command α) (hframes : command.keepsFrames)
    (hspecifies : command.specifies = false) : SameExtents d (d.perform command).2 := by
  have haside (h : command.isAside) := perform_aside command h d
  cases command with
  | createTexture | deleteTexture | createFramebuffer | deleteFramebuffer | framebufferTexture =>
    cases hframes
  | texImage => cases hspecifies
  | clear =>
    exact clear_moves (R := SameExtents)
      (fun d id _ hf => d.textureSize?_modifyTexture id fun t => (hf t).extent) d _ _
  | drawArraysInstanced =>
    exact runEmulator_moves (R := SameExtents)
      (fun d id _ hf => d.textureSize?_modifyTexture id fun t => (hf t).extent) d
  | generateMipmap _ id => exact d.textureSize?_modifyTexture (some id) fun _ => rfl
  | compileShader | linkProgram | clientWaitSync | uniformFloats | uniformInts | uniformUInts
  | uniformMatrix =>
    obtain ⟨_, _, _, _, _, _, heq, -⟩ := haside rfl
    rw [heq]
    rfl
  | _ => rfl

end Software.State

/-! ### Bodies -/

/-- What a target is, apart from its contents and from how it is bound and read. -/
structure Body where
  texture : TextureRef
  layers : Option UInt32
  companion : Companion
  size : UInt32 × UInt32
  freed : Bool

/-- The body of a target. -/
def Target.body (t : Target) : Body where
  texture := t.texture
  layers := t.layers
  companion := t.companion
  size := t.size
  freed := t.freed

namespace Body

/-- The extent of the storage that a body should have. -/
def extent (b : Body) : UInt32 × UInt32 × UInt32 := (b.size.1, b.size.2, max (b.layers.getD 1) 1)

/-- The body after a change of size. -/
def resized (b : Body) (size : UInt32 × UInt32) : Body := { b with size }

/-- The body after its end. -/
def released (b : Body) : Body := { b with freed := true }

/-- A body that may have changed its size and may have come to its end. -/
structure Outlives (b b' : Body) : Prop where
  texture : b'.texture = b.texture
  layers : b'.layers = b.layers
  companion : b'.companion = b.companion

end Body

namespace Store

variable {s s' : Store State} {key : TargetKey} {t : Target} {size : UInt32 × UInt32}
  {data : Option PixelData}

/-- The body of the target of a key. -/
def body? (s : Store State) (key : TargetKey) : Option Body := (s.target? key).map Target.body

/-- The slots of a story, in whatever order. -/
def slots? (s : Store State) (key : StoryKey) : Option (Multiset TargetKey) :=
  (s.story? key).map fun story => story.slots

theorem body?_of_target? (h : s.target? key = some t) : s.body? key = some t.body :=
  congrArg (Option.map Target.body) h

theorem body?_eq_some {b : Body} (h : s.body? key = some b) :
    ∃ t, s.target? key = some t ∧ t.body = b := Option.map_eq_some_iff.1 h

theorem body?_of_targets (h : s'.targets = s.targets) : s'.body? = s.body? := by
  funext key
  rw [body?, target?, h]
  rfl

theorem slots?_of_stories (h : s'.stories = s.stories) : s'.slots? = s.slots? := by
  funext key
  rw [slots?, story?, h]
  rfl

/-- A target that is changed where it matters for its body. -/
theorem body?_modifyTarget (s : Store State) (key : TargetKey) {f : Target → Target}
    {g : Body → Body} (hf : ∀ t, (f t).body = g t.body) (key' : TargetKey) :
    (s.modifyTarget key f).body? key' =
      if key = key' then (s.body? key').map g else s.body? key' := by
  rw [body?, target?_modifyTarget, body?]
  split
  · cases s.target? key' with
    | none => rfl
    | some t => exact congrArg some (hf t)
  · rfl

theorem body?_modifyTarget_same (s : Store State) (key : TargetKey) {f : Target → Target}
    (hf : ∀ t, (f t).body = t.body) : (s.modifyTarget key f).body? = s.body? := by
  funext key'
  rw [body?_modifyTarget s key (g := id) hf, Option.map_id_apply, ite_self]

/-! ### Steady steps -/

/-- Bodies and extents are as they were, and so are stories up to the order of their slots. -/
structure Steady (s s' : Store State) : Prop where
  body : s'.body? = s.body?
  extents : s'.device.textureSize? = s.device.textureSize?
  slots : s'.slots? = s.slots?
  nextTarget : s'.nextTarget = s.nextTarget

instance : IsPreorder (Store State) Steady where
  refl _ := ⟨rfl, rfl, rfl, rfl⟩
  trans _ _ _ h h' := ⟨h'.body.trans h.body, h'.extents.trans h.extents, h'.slots.trans h.slots,
    h'.nextTarget.trans h.nextTarget⟩

theorem command_steady {α : Type} (command : Command α) (hframes : command.keepsFrames)
    (hspecifies : command.specifies = false) :
    Moves Steady (perform command : StateM (Store State) α) := fun s =>
  ⟨body?_of_targets rfl, s.device.sameExtents_perform command hframes hspecifies,
    slots?_of_stories rfl, rfl⟩

theorem nextTarget_modifyTarget (s : Store State) (key : TargetKey) (f : Target → Target) :
    (s.modifyTarget key f).nextTarget = s.nextTarget :=
  congrArg TargetKey.mk (Table.size_modify ..)

theorem steady_modifyTarget (s : Store State) (key : TargetKey) {f : Target → Target}
    (hf : ∀ t, (f t).body = t.body) : Steady s (s.modifyTarget key f) :=
  ⟨body?_modifyTarget_same s key hf, rfl, rfl, nextTarget_modifyTarget s key f⟩

theorem makeFramebuffer_steady (s : Store State) (key : TargetKey) (t : Target) :
    Steady s ((makeFramebuffer key t).run s).2 := by
  rcases run_makeFramebuffer key t s with ⟨e, hrun⟩ | ⟨s', hrun, framebuffers, log, rfl, -⟩ <;>
    rw [hrun]
  · exact ⟨rfl, rfl, rfl, rfl⟩
  · exact ⟨body?_modifyTarget_same s key fun _ => rfl, rfl, rfl, nextTarget_modifyTarget s key _⟩

theorem permitsBinding_steady : PermitsBinding Steady where
  plain command _ hobjects hspecifies :=
    command_steady command (command.keepsFrames_of_keepsObjects hobjects) hspecifies
  mark s key f hf hsize := steady_modifyTarget s key fun t => by
    obtain ⟨htexture, hlayers, hcompanion, -, -, hfreed⟩ := hf t
    unfold Target.body
    rw [htexture, hlayers, hcompanion, hfreed, hsize t]
  makeFramebuffer s key t _ _ _ := makeFramebuffer_steady s key t

theorem permitsReads_steady : PermitsReads Steady where
  command command _ hframes hspecifies := command_steady command hframes hspecifies
  pool s key _ := steady_modifyTarget s key fun _ => rfl
  reads _ _ hdevice htargets hstories :=
    ⟨body?_of_targets htargets, by rw [hdevice], slots?_of_stories hstories,
      by rw [nextTarget, htargets, nextTarget]⟩

/-- A story that turns keeps its slots. -/
theorem rotate_steady (s : Store State) (key : StoryKey) : Steady s (s.rotate key) := by
  refine ⟨rfl, rfl, funext fun key' => ?_, rfl⟩
  rw [slots?, story?, rotate, Table.get?_modify, slots?, story?]
  split
  · cases s.stories.get? key' with
    | none => rfl
    | some story => exact congrArg some (Multiset.coe_eq_coe.2 story.rotate_perm)
  · rfl

/-! ### New storage -/

theorem body?_respecified (s : Store State) (key : TargetKey) (t : Target)
    (size : UInt32 × UInt32) (data : Option PixelData) (key' : TargetKey) :
    (s.respecified key t size data).body? key' =
      if key = key' then (s.body? key').map (·.resized size) else s.body? key' :=
  body?_modifyTarget _ key (fun _ => rfl) key'

/-- The texture of the target has the new size, and no other texture has changed. -/
theorem textureSize?_respecified (s : Store State) (key : TargetKey) (t : Target)
    (size : UInt32 × UInt32) (data : Option PixelData) (id : Name) :
    (s.respecified key t size data).device.textureSize? id =
      if t.texture.name = id then
        (s.device.textureSize? id).map fun _ => (t.body.resized size).extent
      else s.device.textureSize? id := by
  change ((s.device.textures.modify t.texture.name fun texture =>
    texture.specify t.info.layout size.1 size.2 t.layers (data.map PixelData.bytes)).get? id).map
      Texture.extent = _
  rw [Table.get?_modify, State.textureSize?_eq]
  split
  · cases s.device.textures.get? id <;> rfl
  · rfl

/-- Storage that has the size already. -/
theorem respecified_steady (ht : s.target? key = some t)
    (hstored : s.device.textureSize? t.texture.name = some t.body.extent)
    (data : Option PixelData) : Steady s (s.respecified key t t.size data) := by
  refine ⟨funext fun key' => ?_, funext fun id => ?_, rfl, nextTarget_modifyTarget _ key _⟩
  · rw [body?_respecified]
    split
    · rename_i hkey
      rw [← hkey, body?_of_target? ht]
      rfl
    · rfl
  · rw [textureSize?_respecified]
    split
    · rename_i hid
      rw [← hid, hstored]
      rfl
    · rfl

/-! ### The end of a target -/

theorem Released.body? (h : Released key t s s') (ht : s.target? key = some t)
    (key' : TargetKey) : s'.body? key' =
      if key' = key then (s.body? key').map Body.released else s.body? key' := by
  rw [Store.body?, h.target, Store.body?]
  split
  · rename_i hkey
    rw [hkey, ht]
    rfl
  · rfl

theorem Released.textureSize? (h : Released key t s s') (id : Name) :
    s'.device.textureSize? id =
      if id = t.texture.name then none else s.device.textureSize? id := by
  rw [State.textureSize?_eq, h.textures, Table.get?_erase, State.textureSize?_eq]
  split <;> rfl

end Store

/-! ### Acts -/

/-- A target stays what it is, apart from its size and its end. -/
theorem Act.outlives_after {r : Renderer State} {key : TargetKey} {b : Body} (act : Act)
    (hr : r.store.Mounted) (hb : r.store.body? key = some b) :
    ∃ b', (act.after r).store.body? key = some b' ∧ b.Outlives b' := by
  obtain ⟨t, ht, rfl⟩ := Store.body?_eq_some hb
  obtain ⟨-, htextures⟩ := act.after_keepsTextures r hr.toWellFormed
  obtain ⟨-, hframes⟩ := act.after_mounting r hr
  obtain ⟨t', ht', htexture⟩ := htextures key t ht
  have hframe := hframes key t.frame (Store.frame?_of_target? ht)
  rw [Store.frame?_of_target? ht'] at hframe
  injection hframe with hframe
  exact ⟨t'.body, Store.body?_of_target? ht', htexture, congrArg Frame.layers hframe,
    congrArg Frame.companion hframe⟩

theorem Act.outlives_afterAll {r : Renderer State} {key : TargetKey} {b : Body} (acts : List Act)
    (hr : r.store.Mounted) (hb : r.store.body? key = some b) :
    ∃ b', (Act.afterAll r acts).store.body? key = some b' ∧ b.Outlives b' := by
  induction acts generalizing r b with
  | nil => exact ⟨b, hb, rfl, rfl, rfl⟩
  | cons act acts ih =>
    obtain ⟨b₁, hb₁, htexture, hlayers, hcompanion⟩ := act.outlives_after hr hb
    obtain ⟨b₂, hb₂, htexture', hlayers', hcompanion'⟩ := ih (act.after_mounting r hr).1 hb₁
    exact ⟨b₂, hb₂, htexture'.trans htexture, hlayers'.trans hlayers,
      hcompanion'.trans hcompanion⟩

/-- No control of the device changes a texture. -/
theorem Control.steady (change : Control) (s : Store State) :
    Store.Steady s { s with device := change.apply s.device } := by
  refine ⟨rfl, ?_, rfl, rfl⟩
  cases change <;> rfl

end DrawPass
