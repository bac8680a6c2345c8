/-
DrawPass/Proofs/Framebuffers.lean

What is attached to the framebuffer of a target.

It is what the layers and the format of the spec ask for that the target was made for
(`Store.Mirrors`), with two surprises: the layers of a depth texture are attached as colours, and
layer 32, whose point would be the one after the last colour, is attached as a depth buffer.
-/
import DrawPass.Proofs.Mounted

namespace DrawPass

open Gl Software

/-! ### What is attached -/

namespace Software.Framebuffer

/-- A colour that is attached at a point of its own comes after the others. -/
theorem attach_color (fb : Framebuffer) {point : UInt32} {texture : Name} {layer : Option UInt32}
    (hpoint : point ≠ Constant.depthAttachment) (hfree : ∀ a ∈ fb.colors, a.point ≠ point) :
    fb.attach point texture layer = { fb with colors := fb.colors ++ [⟨point, texture, layer⟩] } := by
  have hothers : fb.colors.filter (fun a => a.point != point) = fb.colors :=
    List.filter_eq_self.2 fun a ha => bne_iff_ne.2 (hfree a ha)
  unfold attach
  rw [if_neg (by simpa using hpoint)]
  dsimp only
  rw [hothers]

/-- A layer of a texture as a colour. -/
def layerColor (texture : Name) (layer : UInt32) : Attachment :=
  ⟨Constant.colorAttachment0 + layer, texture, some layer⟩

/-- The point after the last colour is the depth point. -/
theorem colorPoint_eq_depth {layer : UInt32} :
    Constant.colorAttachment0 + layer = Constant.depthAttachment ↔ layer = 32 := by
  constructor
  · intro h
    have hdepth : Constant.depthAttachment = Constant.colorAttachment0 + 32 := rfl
    exact (UInt32.add_right_inj _).1 (h.trans hdepth)
  · rintro rfl
    rfl

/-- Layers that are attached one after the other are colours in this order, except layer 32. -/
theorem foldl_attach (texture : Name) (layers : List UInt32) (hdistinct : layers.Nodup)
    (fb : Framebuffer)
    (hfree : ∀ a ∈ fb.colors, ∀ layer ∈ layers, a.point ≠ Constant.colorAttachment0 + layer) :
    layers.foldl (fun fb layer =>
        fb.attach (Constant.colorAttachment0 + layer) texture (some layer)) fb =
      { colors := fb.colors ++ (layers.erase 32).map (layerColor texture)
        depth := if 32 ∈ layers then some texture else fb.depth } := by
  induction layers generalizing fb with
  | nil => simp
  | cons layer layers ih =>
    obtain ⟨hnew, hrest⟩ := List.nodup_cons.1 hdistinct
    rw [List.foldl_cons]
    -- Layer 32 has the number of the depth attachment, so it is put there and not among the
    -- colours.
    by_cases hdepth : layer = 32
    · subst hdepth
      rw [colorPoint_eq_depth.2 rfl, attach_depth,
        ih hrest { fb with depth := some texture } fun a ha layer hlayer =>
          hfree a ha layer (List.mem_cons_of_mem _ hlayer),
        List.erase_cons_head, List.erase_of_not_mem hnew, if_neg hnew, if_pos List.mem_cons_self]
    · rw [attach_color fb (fun h => hdepth (colorPoint_eq_depth.1 h)) fun a ha =>
          hfree a ha layer List.mem_cons_self, ih hrest _ ?free,
        List.erase_cons_tail (by simpa using hdepth)]
      case free =>
        intro a ha layer' hlayer'
        rcases List.mem_append.1 ha with ha | ha
        · exact hfree a ha layer' (List.mem_cons_of_mem _ hlayer')
        · rw [List.mem_singleton.1 ha]
          rintro hpoint
          exact hnew ((UInt32.add_right_inj _).1 hpoint ▸ hlayer')
      simp [layerColor, List.mem_cons, Ne.symm hdepth]

end Software.Framebuffer

/-- The numbers of the layers of a texture. -/
def layerNumbers (layers : UInt32) : List UInt32 := (List.range layers.toNat).map UInt32.ofNat

theorem mem_layerNumbers {layers layer : UInt32} : layer ∈ layerNumbers layers ↔ layer < layers := by
  constructor
  · intro h
    obtain ⟨i, hi, rfl⟩ := List.mem_map.1 h
    have hlt := List.mem_range.1 hi
    have hsize := layers.toNat_lt
    rw [UInt32.lt_iff_toNat_lt, UInt32.toNat_ofNat', Nat.mod_eq_of_lt (Nat.lt_trans hlt hsize)]
    exact hlt
  · intro h
    exact List.mem_map.2 ⟨layer.toNat, List.mem_range.2 (UInt32.lt_iff_toNat_lt.1 h),
      UInt32.ofNat_toNat⟩

theorem nodup_layerNumbers (layers : UInt32) : (layerNumbers layers).Nodup := by
  refine List.pairwise_map.2 (List.nodup_range.imp_of_mem fun {i j} hi hj hne h => hne ?_)
  have hsize := layers.toNat_lt
  have hnat := congrArg UInt32.toNat h
  rwa [UInt32.toNat_ofNat', UInt32.toNat_ofNat',
    Nat.mod_eq_of_lt (Nat.lt_trans (List.mem_range.1 hi) hsize),
    Nat.mod_eq_of_lt (Nat.lt_trans (List.mem_range.1 hj) hsize)] at hnat

namespace Frame

variable {f c : Frame} {n : UInt32}

theorem attachTo_flat (h : f.layers = none) (hdepth : f.isFlatDepth = false) :
    f.attachTo {} = { colors := [⟨Constant.colorAttachment0, f.name, none⟩] } := by
  unfold attachTo
  rw [h, hdepth]
  rfl

theorem attachTo_depth (h : f.layers = none) (hdepth : f.isFlatDepth = true) (fb : Framebuffer) :
    f.attachTo fb = { fb with depth := some f.name } := by
  unfold attachTo
  rw [h, hdepth]
  rfl

theorem attachTo_layered (h : f.layers = some n) :
    f.attachTo {} =
      { colors := ((layerNumbers n).erase 32).map (Framebuffer.layerColor f.name)
        depth := if 32 < n then some f.name else none } := by
  unfold attachTo
  rw [h]
  refine (Framebuffer.foldl_attach f.name (layerNumbers n) (nodup_layerNumbers n) {} nofun).trans ?_
  simp only [mem_layerNumbers]
  rfl

end Frame

namespace Store

variable {s s' s'' : Store State} {key : TargetKey} {t : Target} {id : Name}

/-- The framebuffer of a target is what the layers and the format of its spec ask for. -/
structure Mirrors (s : Store State) (layers : Option UInt32) (format : TargetFormat) (t : Target)
    (fb : Framebuffer) : Prop where
  flat : layers = none → format.color.isDepth = false →
    fb.colors = [⟨Constant.colorAttachment0, t.texture.name, none⟩]
  flatDepth : layers = none → format.color.isDepth = true →
    fb.colors = [] ∧ fb.depth = some t.texture.name
  /-- Layers are colours, those of a depth texture too. -/
  layered : ∀ n, layers = some n → n ≤ 32 →
    fb.colors = (layerNumbers n).map (Framebuffer.layerColor t.texture.name)
  /-- Layer 32 takes the depth point. -/
  spilled : ∀ n, layers = some n → 32 < n →
    fb.colors = ((layerNumbers n).erase 32).map (Framebuffer.layerColor t.texture.name) ∧
    (format.withDepth = false → fb.depth = some t.texture.name)
  companion : format.withDepth = true → ∃ own c, t.companion = .owned own ∧
    s.target? own = some c ∧ fb.depth = some c.texture.name
  noDepth : format.withDepth = false → (layers = none → format.color.isDepth = false) →
    (∀ n, layers = some n → n ≤ 32) → fb.depth = none

/-- A flat depth target has no layers. -/
theorem layers_of_isFlatDepth {c : Frame} (hc : s.frame? key = some c)
    (hflat : c.isFlatDepth = true) : c.layers = none := by
  obtain ⟨t, -, rfl⟩ := frame?_eq_some hc
  have hboth : (t.layers.isNone && t.format.isDepth) = true := hflat
  exact Option.isNone_iff_eq_none.1 (Bool.and_eq_true_iff.1 hboth).1

/-- The colours of a framebuffer are those of the target; the depth buffer is that of the
companion, if the target has one of its own. -/
theorem Mounted.attached (h : s.Mounted) (ht : s.target? key = some t)
    (hid : t.framebuffer = some id) (hlent : ∀ own, t.companion ≠ .borrowed own) :
    ∃ fb, s.device.framebuffers.get? id = some fb ∧ fb.colors = (t.frame.attachTo {}).colors ∧
      (t.companion = .none → fb.depth = (t.frame.attachTo {}).depth) ∧
      ∀ own, t.companion = .owned own →
        ∃ c, s.target? own = some c ∧ fb.depth = some c.texture.name := by
  have hf := frame?_of_target? ht
  obtain ⟨companion, hmounts, hfb⟩ := h.mounted key t.frame id hf
    ((framebuffer?_of_target? ht).trans hid)
  refine ⟨_, hfb, ?_⟩
  cases hmounts with
  | alone hown =>
    refine ⟨rfl, fun _ => rfl, fun own hcompanion => ?_⟩
    have hown : t.companion.ownedKey? = none := hown
    rw [hcompanion] at hown
    cases hown
  | @beside own c hown hc =>
    have hown : t.companion.key? = some own := hown
    obtain hcompanion : t.companion = .owned own := by
      cases hcompanion : t.companion with
      | none =>
        rw [hcompanion] at hown
        cases hown
      | owned own' =>
        rw [hcompanion] at hown
        cases hown
        rfl
      | borrowed own' => exact absurd hcompanion (hlent own')
    obtain ⟨c', hc', hflat⟩ := h.paired key t.frame own hf
      (show t.companion.ownedKey? = some own by rw [hcompanion]; rfl)
    cases hc.symm.trans hc'
    have hattach := Frame.attachTo_depth (layers_of_isFlatDepth hc hflat) hflat (t.frame.attachTo {})
    change (c.attachTo _).colors = _ ∧ (_ → (c.attachTo _).depth = _) ∧ _
    rw [hattach]
    -- A flat depth buffer takes the place of the depth and leaves the colours as they are.
    refine ⟨rfl, fun hnone => ?_, fun own' hown' => ?_⟩
    · rw [hcompanion] at hnone
      cases hnone
    · cases hcompanion.symm.trans hown'
      obtain ⟨t', ht', rfl⟩ := frame?_eq_some hc
      exact ⟨t', ht', congrArg Framebuffer.depth hattach⟩

/-- What is attached for a target that has no companion, or has one of its own. -/
theorem Mounted.mirrors (h : s.Mounted) (ht : s.target? key = some t)
    (hid : t.framebuffer = some id) {format : TargetFormat} (hformat : t.format = format.color)
    (howned : format.withDepth = true → ∃ own, t.companion = .owned own)
    (halone : format.withDepth = false → t.companion = .none)
    (hplain : format.withDepth = true → format.color.isDepth = false) :
    ∃ fb, s.device.framebuffers.get? id = some fb ∧ s.Mirrors t.layers format t fb := by
  have hflat : t.frame.isFlatDepth = (t.layers.isNone && format.color.isDepth) :=
    congrArg (t.layers.isNone && TextureFormat.isDepth ·) hformat
  obtain ⟨fb, hfb, hcolors, hnone, hown⟩ := h.attached ht hid fun own hlent => by
    cases hwith : format.withDepth with
    | false => cases hlent.symm.trans (halone hwith)
    | true =>
      obtain ⟨own', hown⟩ := howned hwith
      cases hlent.symm.trans hown
  refine ⟨fb, hfb, ?_⟩
  constructor
  case flat =>
    intro hlayers hcolor
    rw [hcolors, Frame.attachTo_flat hlayers (by rw [hflat, hcolor, Bool.and_false])]
    rfl
  case flatDepth =>
    intro hlayers hdepth
    have hattach := Frame.attachTo_depth (f := t.frame) hlayers
      (by rw [hflat, hlayers, hdepth]; rfl) {}
    -- A target of depth alone gets no companion, so its own texture is the depth.
    have hwith : format.withDepth = false := by
      refine Bool.eq_false_iff.2 fun hwith => ?_
      rw [hplain hwith] at hdepth
      cases hdepth
    rw [hcolors, hnone (halone hwith), hattach]
    exact ⟨rfl, rfl⟩
  case layered =>
    intro n hlayers hn
    have hlast : (32 : UInt32) ∉ layerNumbers n := fun hmem =>
      UInt32.not_lt.2 hn (mem_layerNumbers.1 hmem)
    rw [hcolors, Frame.attachTo_layered hlayers, List.erase_of_not_mem hlast]
    rfl
  case spilled =>
    intro n hlayers hn
    have hattach := Frame.attachTo_layered (f := t.frame) hlayers
    refine ⟨by rw [hcolors, hattach]; rfl, fun hwith => ?_⟩
    rw [hnone (halone hwith), hattach, if_pos hn]
    rfl
  case companion =>
    intro hwith
    obtain ⟨own, hcompanion⟩ := howned hwith
    obtain ⟨c, hc, hdepth⟩ := hown own hcompanion
    exact ⟨own, c, hcompanion, hc, hdepth⟩
  case noDepth =>
    intro hwith hcolor hfew
    rw [hnone (halone hwith)]
    cases hlayers : t.layers with
    | none => rw [Frame.attachTo_flat hlayers (by rw [hflat, hcolor hlayers, Bool.and_false])]
    | some n => rw [Frame.attachTo_layered hlayers, if_neg (UInt32.not_lt.2 (hfew n hlayers))]

end Store

end DrawPass
