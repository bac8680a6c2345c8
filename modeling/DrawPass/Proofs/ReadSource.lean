/-
DrawPass/Proofs/ReadSource.lean

What a blocking read of a target returns.

A framebuffer is made for a target once and for all, so what it is read through can be told from
the target: its own texture, or that of a companion of its own if it is a flat depth target
(`Store.Mounted.readSource?_eq`).  A companion that is lent could change this, since it may take
the place of the first colour; `Store.OwnsSource` says that it does not.  So a read returns the
region of that texture, whatever the staging memory held (`Store.Mounted.readSync_texture`).
-/
import DrawPass.Proofs.Mounted
import DrawPass.Proofs.ReadStep

namespace DrawPass

open Gl Software

namespace Store

variable {s s' : Store State} {key : TargetKey} {t : Target} {f : Frame}

/-- A target that has an attachment of its own, and to which nothing has been lent that it would be
read through. -/
structure OwnsSource (s : Store State) (t : Target) : Prop where
  layers : t.layers ≠ some 0
  lent : ∀ lent, t.companion = .borrowed lent →
    t.isFlatDepth = false ∧ ∀ c, s.frame? lent = some c → c.isFlatDepth = true

/-- Companions are flat depth targets, those that are owned and those that are lent. -/
theorem Mounted.isFlatDepth (hs : s.Mounted) (ht : s.target? key = some t) (h : s.OwnsSource t)
    {own : TargetKey} {c : Frame} (hown : t.companion.key? = some own)
    (hc : s.frame? own = some c) : c.isFlatDepth = true := by
  cases hcompanion : t.companion with
  | none =>
    rw [hcompanion] at hown
    cases hown
  | borrowed lent =>
    rw [hcompanion] at hown
    cases hown
    exact (h.lent own hcompanion).2 c hc
  | owned own' =>
    rw [hcompanion] at hown
    cases hown
    obtain ⟨c', hc', hflat⟩ := hs.paired key t.frame own (frame?_of_target? ht)
      (congrArg Companion.ownedKey? hcompanion)
    rw [hc] at hc'
    cases hc'
    exact hflat

/-- The framebuffer that is made for a target is read through the source of the target. -/
theorem Mounted.source?_framebuffer (hs : s.Mounted) (ht : s.target? key = some t)
    (h : s.OwnsSource t) {companion : Option Frame} (hmounts : s.Mounts t.frame companion) :
    (t.frame.framebuffer companion).source? = some (s.source t.frame) := by
  cases hmounts with
  | alone hnone =>
    -- With a companion that is lent the own texture is read.
    have hsource : s.source t.frame = t.texture.name := by
      rw [source]
      split
      · rfl
      · rename_i c hc
        obtain ⟨own, hown, -⟩ := Option.bind_eq_some_iff.1 hc
        have hlent : t.companion = .borrowed own := by
          change t.companion.key? = some own at hown
          change t.companion.ownedKey? = none at hnone
          cases hcompanion : t.companion <;> rw [hcompanion] at hown hnone <;> cases hown
          · cases hnone
          · rfl
        exact if_neg (Bool.eq_false_iff.1 (h.lent own hlent).1)
    rw [hsource, Frame.framebuffer, ← Target.attachTo_eq, source?_attachTo h.layers]
  | beside hown hc =>
    obtain ⟨c, hlook, rfl⟩ := frame?_eq_some hc
    have hframe : t.frame.framebuffer (some c.frame) = s.frameOf t := by
      have hbind : t.companion.key?.bind s.target? = some c := by
        rw [show t.companion.key? = some _ from hown, Option.bind_some, hlook]
      rw [frameOf, hbind]
      dsimp only
      rw [Target.attachTo_eq, Target.attachTo_eq]
      rfl
    rw [hframe, source?_frameOf h.layers fun own c' hown' hlook' =>
      hs.isFlatDepth ht h hown' (frame?_of_target? hlook')]

/-- A target that has been bound is read through its source. -/
theorem Mounted.readSource?_eq (hs : s.Mounted) (ht : s.target? key = some t)
    (h : s.OwnsSource t) (hbind : (bindForRead key).run s = (.ok (), s')) :
    s'.device.readSource? = s.device.textures.get? (s.source t.frame) := by
  obtain ⟨⟨id, hbound, hid⟩, hframes, -, -⟩ := bindForRead_ok hbind
  obtain ⟨size, htarget⟩ := bindForRead_eq_ok.1 hbind
  have htexture : s'.device.textures.get? (s.source t.frame) =
      s.device.textures.get? (s.source t.frame) :=
    congrFun (run_bindTarget_size htarget).2 (some (s.source t.frame))
  have hmounted : s'.Mounted :=
    ((bindForRead_moves permits_mounting.toBinding key).of_run hbind hs).1
  have hframe : s'.frame? key = some t.frame := hframes ▸ frame?_of_target? ht
  obtain ⟨t', ht', hsame⟩ := frame?_eq_some hframe
  obtain ⟨c, hmounts, hget⟩ := hmounted.mounted key t'.frame id (frame?_of_target? ht') hid
  have howns : s'.OwnsSource t' := by
    obtain ⟨hflat, hlayers, hcompanion⟩ : t'.isFlatDepth = t.isFlatDepth ∧
        t'.layers = t.layers ∧ t'.companion = t.companion :=
      ⟨congrArg Frame.isFlatDepth hsame, congrArg Frame.layers hsame,
        congrArg Frame.companion hsame⟩
    refine ⟨hlayers ▸ h.layers, fun lent hlent => ?_⟩
    rw [hflat, hframes]
    exact h.lent lent (hcompanion ▸ hlent)
  have hsource := hmounted.source?_framebuffer ht' howns hmounts
  have hsame' : s'.source t.frame = s.source t.frame := source_eq fun own _ => by rw [hframes]
  rw [State.readSource?_eq hbound hget hsource, hsame, hsame', htexture]

/-- A read returns the region of the texture that the target is read through. -/
theorem Mounted.readSync_texture (hs : s.Mounted) (ht : s.target? key = some t)
    (hlive : t.freed = false) (h : s.OwnsSource t)
    (hbind : (bindForRead key).run s = (.ok (), s')) {region : Option Rect} {rect : Rect}
    (hregion : t.region region = .ok rect) (hends : rect.EndsWithin32Bits) {texture : Texture}
    (htexture : s.device.textures.get? (s.source t.frame) = some texture) :
    ∃ s'', (readSync key region).run s = (.ok (PixelData.ofBytes t.info.array
      (texture.read rect t.info.layout.format t.info.layout.type)), s'') := by
  obtain ⟨memory, s'', hmemory, hrun⟩ := run_readSync ht hlive hregion hbind
  have hlength := Target.length_read hregion hends texture
  refine ⟨s'', hrun.trans ?_⟩
  rw [State.pixels, hs.readSource?_eq ht h hbind, htexture]
  dsimp only
  rw [overwrite_eq (Nat.le_of_eq (hlength.trans hmemory.symm)),
    List.drop_of_length_le (Nat.le_of_eq (hmemory.trans hlength.symm)), List.append_nil]

end Store

end DrawPass
