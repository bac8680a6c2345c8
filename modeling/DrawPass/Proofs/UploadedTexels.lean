/-
DrawPass/Proofs/UploadedTexels.lean

What a texture holds that has been given its texels as bytes.

The bytes are cut twice, into texels and each of these into channels, so a channel is found among
the pieces of one channel each (`Pixel.getElem?_chunks_chunks`).  There it has the index that it
has in a read of the whole texture.  So such a read yields every element as a transfer leaves it
(`Texture.words_read_specify`).
-/
import DrawPass.Proofs.Crops
import DrawPass.Proofs.Texels
import DrawPass.Proofs.Transfers

namespace DrawPass

open Gl Pixel Software

namespace Software.Texture

variable {t : Texture} {x y : Int32} {color : Color} {layout : Layout} {width height : UInt32}

/-- A coordinate inside is not moved to the edge. -/
theorem clamp_coordinate {side : UInt32} (hside : side.toNat ≤ 2147483647) (hx : 0 ≤ x.toInt)
    (hlt : x.toInt < side.toNat) : max 0 (min x (side.toInt32 - 1)) = x := by
  have hlast : (side.toInt32 - 1).toInt = side.toNat - 1 := by
    have hside' : side.toInt32.toInt = side.toNat :=
      Geometry.toInt_of_le_maxCount (UInt32.le_iff_toNat_le.2 hside)
    have hone : (1 : Int32).toInt = 1 := rfl
    rw [Int32.toInt_sub, hside', hone]
    exact Int.bmod_eq_of_le (by omega) (by omega)
  have hzero : (0 : Int32).toInt = 0 := rfl
  apply Int32.toInt_inj.1
  rw [toInt_max, toInt_min, hlast, hzero]
  omega

/-- A shader sees the channels that are stored. -/
theorem toList_fetch (hsize : IsSigned (t.width, t.height))
    (h : t.stored? x y 0 = some color) {c : Nat} (hc : c < t.channels) :
    (t.fetch x y 0).toList[c]? = color.toList[c]? := by
  obtain ⟨i, hi, hcolor⟩ := Option.bind_eq_some_iff.1 h
  obtain ⟨⟨hx, hwidth⟩, ⟨hy, hheight⟩, -⟩ : t.Holds x y 0 := by
    rw [index?_eq] at hi
    by_contra hout
    rw [if_neg hout] at hi
    cases hi
  have hinside : ¬ (t.width = 0 ∨ t.height = 0) := by
    rintro (hzero | hzero)
    · rw [hzero] at hwidth
      exact absurd hwidth (Int.not_lt.2 hx)
    · rw [hzero] at hheight
      exact absurd hheight (Int.not_lt.2 hy)
  have hlayer : min 0 (t.layers - 1) = 0 :=
    if_pos (UInt32.le_iff_toNat_le.2 (Nat.zero_le _))
  have hc' : c < 4 := Nat.lt_of_lt_of_le hc (channelsOf_le t.layout.format)
  unfold fetch
  rw [if_neg hinside, clamp_coordinate hsize.1 hx hwidth, clamp_coordinate hsize.2 hy hheight,
    hlayer]
  dsimp only
  rw [hi]
  dsimp only
  rw [Array.getD_eq_getD_getElem?, hcolor, Option.getD_some]
  rw [Vector.getElem?_toList, Vector.getElem?_ofFn, dif_pos hc', if_pos hc,
    Vector.getElem?_toList, Vector.getElem?_eq_getElem hc']
  rfl

/-- Without texels all is black. -/
theorem toList_fetch_of_empty (h : t.texels = #[]) (layer : UInt32) :
    (t.fetch x y layer).toList[0]? = some .zero := by
  unfold fetch
  split
  · rfl
  dsimp only
  split
  · rfl
  · rw [h, Vector.getElem?_toList, Vector.getElem?_ofFn]
    dsimp
    split <;> rfl

/-- The channels of a pixel are its pieces. -/
theorem toList_decodePixel {pixel : Bytes} (hpixel : pixel.length =
      channelsOf layout.format * (ComponentType.ofConstant layout.type).size) {c : Nat}
    (hc : c < channelsOf layout.format) : (decodePixel layout pixel).toList[c]? =
      (chunks (ComponentType.ofConstant layout.type).size pixel)[c]?.map
        (decodeComponent layout.format layout.type) := by
  have hpos := (ComponentType.ofConstant layout.type).size_pos
  have hc' : c < 4 := Nat.lt_of_lt_of_le hc (channelsOf_le _)
  have hpiece := getElem?_chunks hpos pixel c
  rw [if_pos (hpixel ▸ Nat.mul_lt_mul_of_pos_right hc hpos)] at hpiece
  rw [decodePixel, Color.ofList, Vector.getElem?_toList, Vector.getElem?_ofFn, dif_pos hc',
    List.getD_eq_getElem?_getD, List.getElem?_map, hpiece]
  rfl

section

variable {bytes : Bytes} (hsize : IsSigned (width, height))
  (hcount : width.toNat * height.toNat < 2 ^ 32)
  (hbytes : bytes.length = width.toNat * height.toNat *
    (channelsOf layout.format * (ComponentType.ofConstant layout.type).size))
include hbytes

/-- Data that fills a texture has a pixel for each place. -/
theorem exists_pixel {p : Nat} (hp : p < width.toNat * height.toNat) : ∃ pixel,
    (chunks (channelsOf layout.format * (ComponentType.ofConstant layout.type).size)
      bytes)[p]? = some pixel ∧
    pixel.length = channelsOf layout.format * (ComponentType.ofConstant layout.type).size := by
  have hpos := Nat.mul_pos (channelsOf_pos layout.format)
    (ComponentType.ofConstant layout.type).size_pos
  have hpixel := getElem?_chunks hpos bytes p
  rw [if_pos (hbytes ▸ Nat.mul_lt_mul_of_pos_right hp hpos)] at hpixel
  exact ⟨_, hpixel, length_of_mem_chunks hpos bytes ⟨_, hbytes.trans (Nat.mul_comm ..)⟩ _
    (List.mem_of_getElem? hpixel)⟩

include hcount

/-- Data that fills a texture is cut into its texels. -/
theorem texels_specify {p : Nat} (hp : p < width.toNat * height.toNat) :
    (t.specify layout width height none (some bytes)).texels[p]? =
      (chunks (channelsOf layout.format * (ComponentType.ofConstant layout.type).size)
        bytes)[p]?.map (decodePixel layout) := by
  set size := channelsOf layout.format * (ComponentType.ofConstant layout.type).size with hpixel
  have hpos : 0 < size := Nat.mul_pos (channelsOf_pos _) (ComponentType.size_pos _)
  have hfull : fullChunks size bytes = chunks size bytes := by
    refine List.filter_eq_self.2 fun piece hpiece => beq_iff_eq.2 ?_
    exact length_of_mem_chunks hpos bytes ⟨_, hbytes.trans (Nat.mul_comm ..)⟩ piece hpiece
  have hdepth : (width * height * max ((none : Option UInt32).getD 1) 1).toNat =
      width.toNat * height.toNat := by
    change (width * height * 1).toNat = _
    rw [UInt32.mul_one, UInt32.toNat_mul, Nat.mod_eq_of_lt hcount]
  obtain ⟨pixel, hget, -⟩ := exists_pixel hbytes hp
  have hgiven : (((fullChunks size bytes).take (width.toNat * height.toNat)).map
      (decodePixel layout))[p]? = some (decodePixel layout pixel) := by
    rw [hfull, List.getElem?_map, List.getElem?_take_of_lt hp, hget]
    rfl
  simp only [specify, Option.getD_some, hdepth, ← hpixel, List.getElem?_toArray]
  rw [List.getElem?_append_left (List.getElem?_eq_some_iff.1 hgiven).1, hgiven, hget]
  rfl

include hsize

/-- A texel has the number of its place. -/
theorem stored?_specify {i j : Nat} (hi : i < width.toNat) (hj : j < height.toNat) :
    (t.specify layout width height none (some bytes)).stored? (Int32.ofInt i) (Int32.ofInt j) 0 =
      (chunks (channelsOf layout.format * (ComponentType.ofConstant layout.type).size)
        bytes)[j * width.toNat + i]?.map (decodePixel layout) := by
  obtain ⟨hwidth, hheight⟩ : width.toNat ≤ 2147483647 ∧ height.toNat ≤ 2147483647 := hsize
  have hx : (Int32.ofInt i).toInt = i := Int32.toInt_ofInt_of_le (by omega) (by omega)
  have hy : (Int32.ofInt j).toInt = j := Int32.toInt_ofInt_of_le (by omega) (by omega)
  have hcountable : (t.specify layout width height none (some bytes)).Countable := by
    change width.toNat * height.toNat * 1 < 2 ^ 32
    omega
  have hindex : (t.specify layout width height none (some bytes)).index? (Int32.ofInt i)
      (Int32.ofInt j) 0 = some (j * width.toNat + i) := by
    refine (index?_eq_some_iff hcountable).2 ⟨⟨?_, ?_, UInt32.lt_iff_toNat_lt.2 Nat.one_pos⟩, ?_⟩
    · rw [hx]
      exact ⟨by omega, by exact_mod_cast hi⟩
    · rw [hy]
      exact ⟨by omega, by exact_mod_cast hj⟩
    · change (0 * height.toNat + (Int32.ofInt j).toInt.toNat) * width.toNat +
        (Int32.ofInt i).toInt.toNat = _
      rw [hx, hy, Nat.zero_mul, Nat.zero_add, Int.toNat_natCast, Int.toNat_natCast]
  rw [stored?, hindex, Option.bind_some,
    texels_specify hcount hbytes (mul_add_lt hi hj)]

/-- A channel of a texel is a piece of the data. -/
theorem toList_fetch_specify {i j c : Nat} (hi : i < width.toNat) (hj : j < height.toNat)
    (hc : c < channelsOf layout.format) :
    ((t.specify layout width height none (some bytes)).fetch (Int32.ofInt i) (Int32.ofInt j)
      0).toList[c]? = (chunks (ComponentType.ofConstant layout.type).size
        bytes)[(j * width.toNat + i) * channelsOf layout.format + c]?.map
          (decodeComponent layout.format layout.type) := by
  obtain ⟨pixel, hget, hlength⟩ := exists_pixel hbytes (mul_add_lt hi hj)
  have hstored := stored?_specify (t := t) hsize hcount hbytes hi hj
  rw [hget] at hstored
  rw [toList_fetch hsize hstored hc, toList_decodePixel hlength hc,
    ← getElem?_chunks_chunks (ComponentType.size_pos _) bytes _ hc, hget, Option.bind_some]

end

/-- A read of the whole returns every element as a transfer leaves it. -/
theorem words_read_specify {d : PixelData} {rect : Rect} (hsize : IsSigned (width, height))
    (hwhole : rect.LiesIn (width, height)) (hwidth : rect.width.toInt = width.toNat)
    (hheight : rect.height.toInt = height.toNat) (hcount : width.toNat * height.toNat < 2 ^ 32)
    (helement : (ComponentType.ofConstant layout.type).size = d.kind.byteSize)
    (hlength : d.length = width.toNat * height.toNat * channelsOf layout.format) :
    (PixelData.ofBytes d.kind ((t.specify layout width height none (some d.bytes)).read rect
      layout.format layout.type)).words = d.words.map (transfer layout.format layout.type) := by
  -- A texel is stored by components; an element of the read is one component of one texel.
  set t' := t.specify layout width height none (some d.bytes)
  have hends := hwhole.endsWithin hsize
  obtain ⟨hx, hy⟩ : rect.x.toInt = 0 ∧ rect.y.toInt = 0 := by
    obtain ⟨hx, hy, -, -, hright, htop⟩ := hwhole
    dsimp only at hright htop
    exact ⟨by omega, by omega⟩
  have hwidth' : 0 < rect.width.toInt := hwhole.width
  have hheight' : 0 < rect.height.toInt := hwhole.height
  have hbytes : d.bytes.length = width.toNat * height.toNat *
      (channelsOf layout.format * (ComponentType.ofConstant layout.type).size) := by
    rw [PixelData.length_bytes, hlength, helement, Nat.mul_assoc]
  have hwords : chunks (ComponentType.ofConstant layout.type).size d.bytes =
      d.words.map (bytesOf (ComponentType.ofConstant layout.type).size) := by
    rw [PixelData.bytes, ← helement]
    exact chunks_flatMap (ComponentType.size_pos _) (length_bytesOf _) d.words
  have hsame : (PixelData.ofBytes d.kind (t'.read rect layout.format layout.type)).length =
      d.length := by
    refine PixelData.length_ofBytes ?_
    rw [t'.length_read hx.ge hy.ge hwidth' hheight' hends, hwidth, hheight,
      Int.toNat_natCast, Int.toNat_natCast, helement, hlength, Nat.mul_assoc _ (channelsOf _)]
  refine List.ext_getElem? fun n => ?_
  -- Each index is that of a component of a texel in a row, and past the last there is nothing.
  by_cases hn : n < d.length
  · rw [hlength, Nat.mul_comm] at hn
    obtain ⟨c, hc, p, hp, rfl⟩ := exists_mul_add_eq hn
    obtain ⟨i, hi, j, hj, rfl⟩ := exists_mul_add_eq hp
    have hread := t'.element?_read hx.ge hy.ge hwidth' hheight' hends helement
      (i := i) (j := j) (by omega) (by omega) hc
    rw [hx, hy, zero_add, zero_add, toList_fetch_specify hsize hcount hbytes hi hj hc, hwords,
      hwidth, Int.toNat_natCast] at hread
    refine hread.trans ?_
    rw [List.getElem?_map, List.getElem?_map, Option.map_map, Option.map_map]
    rfl
  · have hpast : d.words.length ≤ n := Nat.le_of_not_lt hn
    rw [List.getElem?_eq_none (hsame.trans_le hpast),
      List.getElem?_eq_none ((List.length_map _).trans_le hpast)]

end Software.Texture

end DrawPass
