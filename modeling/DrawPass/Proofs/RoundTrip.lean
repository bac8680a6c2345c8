/-
DrawPass/Proofs/RoundTrip.lean

What is written to a target is read from it.

A change of a target specifies the storage of its texture from the data, and that of its companion
without any (`Store.Owned.update_specified`).  A flat colour target is read through its own
texture, so a read returns every element as a transfer leaves it.  It is the one that was written
unless it is an integer of 32 bits that single precision does not keep (`uploads_are_read_back`).
-/
import DrawPass.Proofs.UploadedTexels

namespace DrawPass

open Gl Software

namespace Store

variable {s s' : Store State} {key : TargetKey} {t : Target} {size : UInt32 × UInt32}
  {data : PixelData}

/-- A target and its texture have been given data. -/
structure Specified (s s' : Store State) (key : TargetKey) (t : Target)
    (size : UInt32 × UInt32) (data : PixelData) : Prop where
  live : t.freed = false
  fits : checkData t.tag t.info size t.layers (some data) = .ok ()
  target : s'.target? key = some (t.resized size)
  frames : s'.frame? = s.frame?
  texture : ∃ old : Texture, s'.device.textures.get? t.texture.name =
    some (old.specify t.info.layout size.1 size.2 t.layers (some data.bytes))
  granted : s'.device.failNextFramebuffer = s.device.failNextFramebuffer

theorem frame?_respecified (s : Store State) (key : TargetKey) (t : Target)
    (size : UInt32 × UInt32) (data : Option PixelData) :
    (s.respecified key t size data).frame? = s.frame? := by
  funext key'
  rw [frame?, target?_respecified, frame?]
  split
  · cases s.target? key' <;> rfl
  · rfl

/-- A change that goes through gives data to the target. A companion of its own comes after it, and
has another texture. -/
theorem Owned.update_specified (hs : s.Owned) (ht : s.target? key = some t)
    (h : (update key size (some data)).run s = (.ok (), s')) : s.Specified s' key t size data := by
  obtain ⟨t', ht', hlive, hfits, hcompanion⟩ := update_eq_ok h
  cases ht.symm.trans ht'
  obtain ⟨old, hold⟩ := hs.exists_texture ht hlive
  have htarget : (s.respecified key t size (some data)).target? key = some (t.resized size) :=
    target?_respecified_self ht
  have htexture : (s.respecified key t size (some data)).device.textures.get? t.texture.name =
      some (old.specify t.info.layout size.1 size.2 t.layers (some data.bytes)) := by
    refine (Table.get?_modify ..).trans ?_
    rw [if_pos rfl, hold]
    rfl
  rcases hcompanion with ⟨-, rfl⟩ | ⟨own, c, hown, hc, -, rfl⟩
  · exact ⟨hlive, hfits, htarget, frame?_respecified .., ⟨old, htexture⟩, rfl⟩
  · -- The companion is older than its target, so it is another one with another texture.
    have hframe : s.frame? own = some c.frame := by
      rw [← frame?_respecified s key t size (some data)]
      exact frame?_of_target? hc
    have hkey : own ≠ key := hs.own_ne ht hown
    have hname : c.texture.name ≠ t.texture.name := fun hsame =>
      hkey (hs.ownTexture own key c.frame t.frame hframe (frame?_of_target? ht) hsame)
    refine ⟨hlive, hfits, ?_, ?_, ⟨old, ?_⟩, rfl⟩
    · rw [target?_respecified, if_neg hkey, htarget]
    · rw [frame?_respecified, frame?_respecified]
    · exact (Table.get?_modify ..).trans ((if_neg hname).trans htexture)

theorem checkData_eq_ok {tag : String} {info : FormatInfo} {layers : Option UInt32} :
    checkData tag info size layers (some data) = .ok () ↔ data.kind = info.array ∧
      data.length = size.1.toNat * size.2.toNat * (layers.getD 1).toNat * info.channels := by
  have hpos := info.array.byteSize_pos
  unfold checkData
  dsimp only
  split
  · rename_i hbad
    refine iff_of_false nofun ?_
    rintro ⟨hkind, hlength⟩
    rcases hbad with hbytes | hkind'
    · exact hbytes (by rw [PixelData.length_bytes, hlength, hkind, dataBytes])
    · exact hkind' hkind
  · rename_i hgood
    obtain ⟨hbytes, hkind⟩ := not_or.1 hgood
    refine iff_of_true rfl ⟨not_not.1 hkind, ?_⟩
    have hbytes := not_not.1 hbytes
    rw [PixelData.length_bytes, not_not.1 hkind, dataBytes] at hbytes
    exact (Nat.eq_of_mul_eq_mul_right hpos hbytes).symm

theorem checkData_flat_eq_ok {tag : String} {info : FormatInfo} :
    checkData tag info size none (some data) = .ok () ↔ data.kind = info.array ∧
      data.length = size.1.toNat * size.2.toNat * info.channels := by
  have hone : ((none : Option UInt32).getD 1).toNat = 1 := rfl
  rw [checkData_eq_ok, hone, Nat.mul_one]

/-- Data that fills a flat target without a companion goes in. -/
theorem update_of_fits (ht : s.target? key = some t) (hlive : t.freed = false)
    (hlayers : t.layers = none) (hcompanion : t.companion = .none)
    (hkind : data.kind = t.info.array)
    (hlength : data.length = size.1.toNat * size.2.toNat * t.info.channels) :
    (update key size (some data)).run s = (.ok (), s.respecified key t size (some data)) := by
  have hfits : checkData t.tag t.info size t.layers (some data) = .ok () := by
    rw [hlayers]
    exact checkData_flat_eq_ok.2 ⟨hkind, hlength⟩
  exact update_alone ht hlive hfits (by rw [hcompanion]; rfl)

/-- A target without a depth buffer for its texture is read through that texture. -/
theorem source_of_not_isFlatDepth (s : Store State) {f : Frame} (h : f.isFlatDepth = false) :
    s.source f = f.name := by
  unfold source
  split
  · rfl
  · rw [h]
    rfl

/-- Nothing that has been lent to a target takes the place of its colour. -/
def LendsDepth (s : Store State) (t : Target) : Prop :=
  ∀ lent c, t.companion = .borrowed lent → s.target? lent = some c → c.isFlatDepth = true

theorem lendsDepth_of_companion_eq_none (h : t.companion = .none) : s.LendsDepth t :=
  fun _ _ hlent => absurd (h.symm.trans hlent) nofun

section

variable (h : s.Specified s' key t size data) (hs' : s'.Mounted)
  (hcolor : t.format.isDepth = false) (hlayers : t.layers = none) (hlent : s.LendsDepth t)
  (hwidth : 1 ≤ size.1.toNat) (hheight : 1 ≤ size.2.toNat) (hsize : IsSigned size)
  (hgrant : t.framebuffer ≠ none ∨ s.device.failNextFramebuffer = false)
include h hs' hcolor hlayers hlent hwidth hheight hsize hgrant

/-- A flat colour target is read through the texture that has been given the data. -/
theorem Specified.read_texture : ∃ (old : Texture) (s'' : Store State),
    (readSync key none).run s' = (.ok (PixelData.ofBytes data.kind
      ((old.specify t.info.layout size.1 size.2 none (some data.bytes)).read
        (t.resized size).whole t.info.layout.format t.info.layout.type)), s'') := by
  have hflat : t.isFlatDepth = false := by
    rw [Target.isFlatDepth, hcolor, Bool.and_false]
  have howns : s'.OwnsSource (t.resized size) := by
    refine ⟨fun hzero => ?_, fun lent hlend => ⟨hflat, fun c hc => ?_⟩⟩
    · rw [Target.resized, hlayers] at hzero
      cases hzero
    · rw [h.frames] at hc
      obtain ⟨c', hc', rfl⟩ := frame?_eq_some hc
      exact hlent lent c' hlend hc'
  obtain ⟨bound, hbind⟩ := exists_run_bindTarget (s := s') h.target h.live (h.granted ▸ hgrant)
  have hwhole : (t.resized size).whole.LiesIn size :=
    Target.whole_liesIn (t := t.resized size) hsize hwidth hheight
  have hregion := Target.region_none_eq_ok (t := t.resized size) hwhole
  obtain ⟨old, htexture⟩ := h.texture
  rw [hlayers] at htexture
  have hsource : s'.source (t.resized size).frame = t.texture.name :=
    s'.source_of_not_isFlatDepth hflat
  obtain ⟨s'', hread⟩ := hs'.readSync_texture h.target h.live howns
    (bindForRead_eq_ok.2 ⟨_, hbind⟩) hregion (hwhole.endsWithin hsize) (hsource ▸ htexture)
  have hkind : (t.resized size).info.array = data.kind := (checkData_eq_ok.1 h.fits).1.symm
  rw [hkind] at hread
  exact ⟨old, s'', hread⟩

/-- So every element comes back as a transfer leaves it. -/
theorem Specified.read (hcount : size.1.toNat * size.2.toNat < 2 ^ 32) :
    ∃ back s'', (readSync key none).run s' = (.ok back, s'') ∧ back.kind = data.kind ∧
      back.words = data.words.map (transfer t.info.layout.format t.info.layout.type) := by
  obtain ⟨old, s'', hread⟩ :=
    h.read_texture hs' hcolor hlayers hlent hwidth hheight hsize hgrant
  refine ⟨_, s'', hread, PixelData.kind_ofBytes .., ?_⟩
  have hfits := h.fits
  rw [hlayers] at hfits
  obtain ⟨hkind, hlength⟩ := checkData_flat_eq_ok.1 hfits
  have hwhole : (t.resized size).whole.LiesIn size :=
    Target.whole_liesIn (t := t.resized size) hsize hwidth hheight
  obtain ⟨hright, htop⟩ := Target.toInt_whole (t := t.resized size) hsize
  have helement : (ComponentType.ofConstant t.info.layout.type).size = data.kind.byteSize :=
    hkind ▸ t.format.transfer_element
  have hfull : data.length = size.1.toNat * size.2.toNat * channelsOf t.info.layout.format :=
    hlength.trans (congrArg _ t.format.transfer_channels.symm)
  exact Texture.words_read_specify hsize hwhole hright htop hcount helement hfull

end

end Store

theorem ReachableBy.mounted_update {r : Renderer State} (hr : Reachable r) {key : TargetKey}
    {size : UInt32 × UInt32} {data : Option PixelData} {result : Except DrawError Unit}
    {s' : Store State} (h : (Store.update key size data).run r.store = (result, s')) :
    s'.Mounted := by
  have hr' := (hr.step (.update key size data) trivial).mounted
  rw [Act.after, Renderer.run_tryOnStore, h] at hr'
  exact hr'

/-- Data goes into a flat colour target, and a read after that does not return it. -/
def Misread (r : Renderer State) (key : TargetKey) (size : UInt32 × UInt32)
    (data : PixelData) : Prop :=
  ∃ (t : Target) (channels : Channels) (scalar : Scalar) (r' : Renderer State),
    r.store.target? key = some t ∧ t.format = .color channels scalar ∧ t.layers = none ∧
    (Renderer.tryOnStore (Store.update key size (some data))).run r = (.ok (), r') ∧
    ∀ r'', (Renderer.tryOnStore (Store.readSync key none)).run r' ≠ (.ok data, r'')

section

variable {r : Renderer State} {key : TargetKey} {t : Target} {channels : Channels}
  {scalar : Scalar} {size : UInt32 × UInt32} {data : PixelData}
  (ht : r.store.target? key = some t) (hformat : t.format = .color channels scalar)
  (hlayers : t.layers = none)
include ht hformat hlayers

theorem misread_of_run
    (hupdate : ((Renderer.tryOnStore (Store.update key size (some data))).run r).1 = .ok ())
    (hread : ((Renderer.tryOnStore (Store.readSync key none)).run
      (Act.after r (.update key size (some data)))).1 ≠ .ok data) : Misread r key size data :=
  ⟨t, channels, scalar, _, ht, hformat, hlayers, Prod.ext hupdate rfl,
    fun _ h => hread (congrArg Prod.fst h)⟩

variable (hr : Reachable r) (hlive : t.freed = false) (hcompanion : t.companion = .none)
  (hkind : data.kind = t.info.array)
  (hlength : data.length = size.1.toNat * size.2.toNat * t.info.channels)
include hr hlive hcompanion hkind hlength

/-- A target with a long side cannot be read as a whole. -/
theorem misread_of_not_isSigned (hsize : ¬ IsSigned size) : Misread r key size data := by
  have hupdate := Store.update_of_fits ht hlive hlayers hcompanion hkind hlength
  refine ⟨t, channels, scalar, { r with store := r.store.respecified key t size (some data) },
    ht, hformat, hlayers, by rw [Renderer.run_tryOnStore, hupdate], fun r'' h => ?_⟩
  have hregion := Target.region_none_eq_error (t := t.resized size) hsize
  rw [Renderer.run_tryOnStore, Store.readSync_refused
    (hr.mounted.update_specified ht hupdate).target hlive hregion] at h
  cases h

/-- The texels of a target are counted with 32 bits. If this gives none, none is stored. -/
theorem misread_of_wrapped (hsize : IsSigned size) (hwrapped : size.1 * size.2 = 0)
    (hwidth : 1 ≤ size.1.toNat) (hheight : 1 ≤ size.2.toNat)
    (hgrant : r.store.device.failNextFramebuffer = false)
    (hdata : data.words[0]? ≠ some 0) : Misread r key size data := by
  have hupdate := Store.update_of_fits ht hlive hlayers hcompanion hkind hlength
  have hspecified := hr.mounted.update_specified ht hupdate
  refine ⟨t, channels, scalar, { r with store := r.store.respecified key t size (some data) },
    ht, hformat, hlayers, by rw [Renderer.run_tryOnStore, hupdate], fun r'' h => hdata ?_⟩
  obtain ⟨old, s'', hread⟩ := hspecified.read_texture (hr.mounted_update hupdate)
    (by rw [hformat]; rfl) hlayers (Store.lendsDepth_of_companion_eq_none hcompanion) hwidth hheight
    hsize (.inr hgrant)
  rw [Renderer.run_tryOnStore, hread] at h
  have hback := Except.ok.inj (Prod.mk.inj h).1
  -- Without any texels the device answers zero for each component.
  set texture := old.specify t.info.layout size.1 size.2 none (some data.bytes) with htexture
  have hempty : texture.texels = #[] := by
    have hcount : size.1 * size.2 * max ((none : Option UInt32).getD 1) 1 = 0 := by
      rw [hwrapped]
      rfl
    rw [htexture, Texture.specify, hcount]
    rfl
  have hwhole : (t.resized size).whole.LiesIn size :=
    Target.whole_liesIn (t := t.resized size) hsize hwidth hheight
  have hzero : Pixel.wordOf (encodeComponent t.info.layout.format t.info.layout.type .zero) =
      0 := by
    rw [Target.info, hformat, wordOf_encodeComponent_zero]
  have helement : (ComponentType.ofConstant t.info.layout.type).size = data.kind.byteSize :=
    hkind ▸ t.format.transfer_element
  have hfirst := texture.element?_read hwhole.x hwhole.y hwhole.width hwhole.height
    (hwhole.endsWithin hsize) helement (i := 0) (j := 0) (c := 0)
    (by have := hwhole.width; omega) (by have := hwhole.height; omega)
    (channelsOf_pos t.info.layout.format)
  rw [Texture.toList_fetch_of_empty hempty, Option.map_some, hzero, hback, PixelData.element?]
    at hfirst
  rwa [Nat.zero_mul, Nat.zero_mul] at hfirst

end

end DrawPass
