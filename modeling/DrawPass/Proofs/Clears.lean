/-
DrawPass/Proofs/Clears.lean

What a clear of the device writes.

Of a device only its textures matter here, and the default framebuffer with them (`Contents`).  A
clear under a scissor writes the colour to the colour attachments of the bound framebuffer and then,
if the depth mask lets it, the greatest depth to the depth attachment.  Each of the two is a loop of
fills, so each paints exactly the texels of its attachments that lie in the scissor
(`State.clear_paints`).

A texture has the texels that its size promises only if its storage is as long as that.  It is,
throughout (`ReachableBy.full`).
-/
import DrawPass.Proofs.Run
import DrawPass.Proofs.Texels

namespace DrawPass

open Gl Software

/-! ### Storage -/

namespace Software.State

variable {d d' : State}

/-- The storage of every texture is full, that of the default framebuffer too. -/
def Full (d : State) : Prop := ∀ id t, d.texture? id = some t → t.Full

/-- Full storage stays full. -/
def KeepsFull (d d' : State) : Prop := d.Full → d'.Full

instance : IsPreorder State KeepsFull where
  refl _ h := h
  trans _ _ _ h h' hd := h' (h hd)

theorem keepsFull_of_same (h : d'.texture? = d.texture?) : KeepsFull d d' := by
  intro hd id t ht
  rw [h] at ht
  exact hd id t ht

theorem texture?_modifyTexture (d : State) (id id' : Option Name) (f : Texture → Texture) :
    (d.modifyTexture id f).texture? id' =
      if id = id' then (d.texture? id').map f else d.texture? id' := by
  cases id with
  | none => cases id' <;> rfl
  | some id =>
    cases id' with
    | none => rfl
    | some id' =>
      show (d.textures.modify id f).get? id' = _
      rw [Table.get?_modify]
      simp only [Option.some.injEq]
      rfl

theorem keepsFull_modifyTexture (d : State) (id : Option Name) {f : Texture → Texture}
    (hf : ∀ t, t.Full → (f t).Full) : KeepsFull d (d.modifyTexture id f) := by
  intro hd id' t ht
  rw [texture?_modifyTexture] at ht
  split at ht
  · obtain ⟨t₀, ht₀, rfl⟩ := Option.map_eq_some_iff.1 ht
    exact hf t₀ (hd id' t₀ ht₀)
  · exact hd id' t ht

end Software.State

namespace Software.Texture

theorem Recolored.full {t t' : Texture} (h : t.Recolored t') (ht : t.Full) : t'.Full := by
  unfold Full
  rw [h.size, ht, h.frame]

/-- New storage is full. -/
theorem full_specify (t : Texture) (layout : Layout) (width height : UInt32)
    (layers : Option UInt32) (data : Option Bytes) :
    (t.specify layout width height layers data).Full := by
  unfold Full specify
  dsimp only
  rw [List.size_toArray, List.length_append, List.length_replicate]
  refine Nat.add_sub_of_le ?_
  rw [List.length_map, List.length_take]
  exact Nat.min_le_left ..

end Software.Texture

namespace Software.State

/-- Every command keeps storage full. -/
theorem keepsFull_perform {α : Type} (command : Command α) (d : State) :
    KeepsFull d (d.perform command).2 := by
  -- Few commands come near the textures, and those that do fill or keep the storage as a whole.
  have haside (h : command.isAside) := perform_aside command h d
  cases command with
  | createTexture =>
    intro hd
    simp only [perform, createTexture]
    split
    · exact hd
    · intro id t ht
      cases id with
      | none => exact hd none t ht
      | some id =>
        have hget : (d.textures.insert (d.lastName + 1) Texture.empty).get? id = some t := ht
        rw [Table.get?_insert] at hget
        split at hget
        · cases hget
          rfl
        · exact hd (some id) t hget
  | deleteTexture name =>
    intro hd id t ht
    cases id with
    | none => exact hd none t ht
    | some id =>
      have hget : (d.textures.erase name).get? id = some t := ht
      rw [Table.get?_erase] at hget
      split at hget
      · cases hget
      · exact hd (some id) t hget
  | texImage id =>
    exact keepsFull_modifyTexture d (some id) fun t _ => t.full_specify _ _ _ _ _
  | generateMipmap _ id => exact keepsFull_modifyTexture d (some id) fun _ ht => ht
  | clear =>
    exact clear_moves (R := KeepsFull)
      (fun d id _ hf => keepsFull_modifyTexture d id fun t => (hf t).full) d _ _
  | drawArraysInstanced =>
    exact runEmulator_moves (R := KeepsFull)
      (fun d id _ hf => keepsFull_modifyTexture d id fun t => (hf t).full) d
  | createFramebuffer =>
    simp only [perform, createFramebuffer]
    split <;> exact keepsFull_of_same rfl
  | framebufferTexture =>
    simp only [perform, attach]
    split <;> exact keepsFull_of_same rfl
  | compileShader | linkProgram | clientWaitSync | uniformFloats | uniformInts | uniformUInts
  | uniformMatrix =>
    obtain ⟨_, _, _, _, _, _, heq, -⟩ := haside rfl
    rw [heq]
    exact keepsFull_of_same rfl
  | _ => exact keepsFull_of_same rfl

end Software.State

/-- The storage of every texture is full throughout. -/
theorem ReachableBy.full {P : Act → Prop} {r : Renderer State} (h : ReachableBy P r) :
    r.store.device.Full := by
  refine h.invariant (I := fun r => r.store.device.Full) ?_ ?_
  · intro config width height r hr id t ht
    obtain ⟨capacity, buffers, log, -, rfl⟩ := Renderer.create_eq hr
    cases id with
    | none =>
      cases ht
      exact Texture.empty.full_specify ..
    | some id => cases ht
  · intro act r _ hfull
    exact Act.onDevice_moves State.keepsFull_perform (fun change d => by
      cases change with
      | resizeDrawingBuffer =>
        exact State.keepsFull_modifyTexture d none fun t _ => t.full_specify ..
      | _ => exact State.keepsFull_of_same rfl) act r hfull

/-! ### Clearing a framebuffer -/

namespace Software

/-- Textures by number, and the default framebuffer. -/
abbrev Contents : Type := Option Name → Option Texture

/-- Exactly the texels of an area have been written, with one value at the precision of each
storage, and no texture has come or gone. -/
def Contents.Painted (area : Option Name → Int32 → Int32 → UInt32 → Prop) (value : Color)
    (c c' : Contents) : Prop :=
  ∀ id, Option.Rel (fun t t' => t.Painted (area id) (t.quantized value) t') (c id) (c' id)

namespace Contents

variable {area area' : Option Name → Int32 → Int32 → UInt32 → Prop} {value : Color}
  {c c' c'' : Contents}

theorem rel_trans {R S T : Texture → Texture → Prop} {o o' o'' : Option Texture}
    (h : ∀ t t' t'', o = some t → R t t' → S t' t'' → T t t'') (hR : Option.Rel R o o')
    (hS : Option.Rel S o' o'') : Option.Rel T o o'' := by
  cases hR with
  | none =>
    cases hS
    exact .none
  | some hfirst =>
    cases hS with
    | some hsecond => exact .some (h _ _ _ rfl hfirst hsecond)

theorem Painted.none (c : Contents) (value : Color) :
    c.Painted (fun _ _ _ _ => False) value c := by
  intro id
  cases c id with
  | none => exact .none
  | some t => exact .some (.none t _)

theorem Painted.congr (h : c.Painted area value c')
    (harea : ∀ id x y layer, area id x y layer ↔ area' id x y layer) :
    c.Painted area' value c' := by
  obtain rfl : area = area' := by
    funext id x y layer
    exact propext (harea id x y layer)
  exact h

/-- Two areas that are painted with the same value, one after the other. -/
theorem Painted.or (h : c.Painted area value c') (h' : c'.Painted area' value c'') :
    c.Painted (fun id x y layer => area id x y layer ∨ area' id x y layer) value c'' := by
  intro id
  refine rel_trans (fun t t' t'' _ hpaint hpaint' => ?_) (h id) (h' id)
  have hquantized : t'.quantized value = t.quantized value := by
    rw [hpaint.frame]
    rfl
  rw [hquantized] at hpaint'
  exact hpaint.or hpaint'

end Contents

namespace State

variable {d d' : State}

/-- The texture and the layer of which a clear writes the depth. -/
def depthTargets (d : State) : List (Option Name × UInt32) :=
  (d.framebuffer?.bind Framebuffer.depth).toList.map fun id => (some id, 0)

/-- A change of one texture. -/
theorem modifyTexture_paints (d : State) (id : Option Name)
    {area : Int32 → Int32 → UInt32 → Prop} {value : Color} {f : Texture → Texture}
    (hf : ∀ t : Texture, t.Painted area (t.quantized value) (f t)) :
    Contents.Painted (fun id' x y layer => id = id' ∧ area x y layer) value d.texture?
      (d.modifyTexture id f).texture? := by
  intro id'
  rw [texture?_modifyTexture]
  cases d.texture? id' with
  | none => split <;> exact .none
  | some t =>
    split
    · rename_i hid
      exact .some ((hf t).congr fun _ _ _ _ => (and_iff_right hid).symm)
    · rename_i hid
      exact .some ((Texture.Painted.none t _).congr fun _ _ _ _ =>
        ⟨False.elim, fun h => hid h.1⟩)

/-- What decides which texels a clear reaches. -/
structure SameScissor (d d' : State) : Prop where
  enabled : d'.enabled = d.enabled
  scissor : d'.scissor = d.scissor
  framebuffers : d'.framebuffers = d.framebuffers
  bound : d'.boundFramebuffer = d.boundFramebuffer
  depthMask : d'.depthMask = d.depthMask

instance : IsPreorder State SameScissor where
  refl _ := ⟨rfl, rfl, rfl, rfl, rfl⟩
  trans _ _ _ h h' := ⟨h'.enabled.trans h.enabled, h'.scissor.trans h.scissor,
    h'.framebuffers.trans h.framebuffers, h'.bound.trans h.bound, h'.depthMask.trans h.depthMask⟩

theorem sameScissor_modifyTexture (d : State) (id : Option Name) (f : Texture → Texture) :
    SameScissor d (d.modifyTexture id f) := by
  cases id <;> exact ⟨rfl, rfl, rfl, rfl, rfl⟩

theorem clearRect_of_enabled (h : d.isEnabled Constant.scissorTest) (t : Texture) :
    d.clearRect t = d.scissor := if_pos h

variable (hscissor : d.isEnabled Constant.scissorTest) (hfit : d.scissor.EndsFit)
include hscissor hfit

theorem clearColor_paints (color : Color) (target : Option Name × UInt32) :
    Contents.Painted (fun id x y layer => d.scissor.Contains x y ∧ (id, layer) = target) color
      d.texture? (clearColor color d target).texture? := by
  unfold clearColor
  cases htarget : d.texture? target.1 with
  | none =>
    -- There is nothing to write, so it does not matter what the area is.
    intro id
    by_cases hid : target.1 = id
    · rw [← hid, htarget]
      exact .none
    · cases d.texture? id with
      | none => exact .none
      | some t =>
        exact .some ((Texture.Painted.none t _).congr fun _ _ _ _ =>
          ⟨False.elim, fun h => hid (congrArg Prod.fst h.2).symm⟩)
  | some t =>
    dsimp only
    rw [clearRect_of_enabled hscissor]
    refine (modifyTexture_paints d target.1 fun t =>
      t.fill_paints hfit target.2 color).congr fun id x y layer => ?_
    rw [Prod.ext_iff]
    exact ⟨fun h => ⟨h.2.1, h.1.symm, h.2.2⟩, fun h => ⟨h.2.1.symm, h.1, h.2.2⟩⟩

theorem foldl_clearColor_paints (color : Color) (targets : List (Option Name × UInt32)) :
    Contents.Painted (fun id x y layer => d.scissor.Contains x y ∧ (id, layer) ∈ targets) color
      d.texture? (targets.foldl (clearColor color) d).texture? := by
  induction targets generalizing d with
  | nil => exact (Contents.Painted.none _ _).congr fun _ _ _ _ => by simp
  | cons target targets ih =>
    -- The scissor stays, so the rest of the loop is an instance for the device it begins on.
    have hsame : SameScissor d (clearColor color d target) :=
      clearColor_moves (fun d id f _ => sameScissor_modifyTexture d id f) d color target
    have hrest := ih (d := clearColor color d target)
      (by rwa [isEnabled, hsame.enabled]) (by rwa [hsame.scissor])
    rw [hsame.scissor] at hrest
    refine ((clearColor_paints hscissor hfit color target).or hrest).congr fun id x y layer => ?_
    rw [List.mem_cons]
    tauto

omit hscissor hfit in
/-- Depth is cleared like a colour. -/
theorem clearDepth_eq :
    d.clearDepth = d.depthTargets.foldl (clearColor (Color.uniform .one)) d := by
  unfold clearDepth depthTargets
  cases d.framebuffer?.bind Framebuffer.depth with
  | none => rfl
  | some id =>
    show _ = clearColor (Color.uniform .one) d (some id, 0)
    unfold clearColor texture?
    cases d.textures.get? id <;> rfl

/-- A clear writes the colour attachments, and then the depth attachment if depth is written. -/
theorem clear_paints (color : Color) :
    ∃ c : Contents,
      Contents.Painted (fun id x y layer => d.scissor.Contains x y ∧ (id, layer) ∈ d.colorTargets)
        color d.texture? c ∧
      Contents.Painted (fun id x y layer => d.depthMask ∧ d.scissor.Contains x y ∧
          (id, layer) ∈ d.depthTargets) (Color.uniform .one) c
        (d.clear color (Constant.colorBufferBit ||| Constant.depthBufferBit)).texture? := by
  have hclear : d.clear color (Constant.colorBufferBit ||| Constant.depthBufferBit) =
      if (d.colorTargets.foldl (clearColor color) d).depthMask then
        (d.colorTargets.foldl (clearColor color) d).clearDepth
      else d.colorTargets.foldl (clearColor color) d := rfl
  have hsame : SameScissor d (d.colorTargets.foldl (clearColor color) d) :=
    foldl_clearColor_moves (fun d id f _ => sameScissor_modifyTexture d id f) d color d.colorTargets
  have hcolors := foldl_clearColor_paints hscissor hfit color d.colorTargets
  rw [hclear]
  generalize d.colorTargets.foldl (clearColor color) d = between at hsame hcolors ⊢
  -- The depth is cleared on the device that the colours leave behind, under the same scissor.
  have hdepths : between.depthTargets = d.depthTargets := by
    unfold depthTargets framebuffer?
    rw [hsame.bound, hsame.framebuffers]
  have hdepth := foldl_clearColor_paints (d := between) (by rwa [isEnabled, hsame.enabled])
    (by rwa [hsame.scissor]) (Color.uniform .one) between.depthTargets
  rw [hsame.scissor, hdepths] at hdepth
  refine ⟨between.texture?, hcolors, ?_⟩
  rw [hsame.depthMask]
  split
  · rename_i hmask
    rw [clearDepth_eq, hdepths]
    exact hdepth.congr fun _ _ _ _ => (and_iff_right hmask).symm
  · rename_i hmask
    exact (Contents.Painted.none _ _).congr fun _ _ _ _ => ⟨False.elim, fun h => hmask h.1⟩

end State

end Software

end DrawPass
