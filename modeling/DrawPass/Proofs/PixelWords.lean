/-
DrawPass/Proofs/PixelWords.lean

Where the elements of a read stand.

A texture is read row by row, place by place, channel by channel (`Texture.components`).  So each
element of a read has its index, and is the word of one channel of the texel that a shader would
see at that place (`Texture.element?_read`).
-/
import DrawPass.Proofs.RegionBytes
import Mathlib.Tactic.Ring

namespace DrawPass

open Gl Pixel Software

/-- Lists of one length that are put together: an element is found by its list and by its place
there. -/
theorem getElem?_flatMap_of_length {α β : Type} {n : Nat} {f : α → List β}
    (hf : ∀ a, (f a).length = n) {i : Nat} (hi : i < n) (as : List α) (q : Nat) :
    (as.flatMap f)[q * n + i]? = as[q]?.bind fun a => (f a)[i]? := by
  induction as generalizing q with
  | nil => rfl
  | cons a as ih =>
    rw [List.flatMap_cons]
    cases q with
    | zero =>
      rw [Nat.zero_mul, Nat.zero_add, List.getElem?_append_left (by rw [hf]; exact hi)]
      rfl
    | succ q =>
      have hindex : (q + 1) * n + i = (f a).length + (q * n + i) := by
        rw [hf]
        ring
      rw [hindex, List.getElem?_append_right (Nat.le_add_right ..), Nat.add_sub_cancel_left, ih]
      rfl

/-! ### Places in rows and pieces -/

theorem mul_add_lt {i j width height : Nat} (hi : i < width) (hj : j < height) :
    j * width + i < width * height := by
  calc j * width + i < (j + 1) * width := by rw [Nat.succ_mul]; omega
    _ ≤ height * width := Nat.mul_le_mul_right _ hj
    _ = width * height := Nat.mul_comm ..

/-- Rows one after the other have a place for every index. -/
theorem exists_mul_add_eq {n width height : Nat} (hn : n < width * height) :
    ∃ i < width, ∃ j < height, j * width + i = n := by
  refine ⟨n % width, Nat.mod_lt n ?_, n / width, Nat.div_lt_of_lt_mul hn,
    Nat.div_add_mod' n width⟩
  exact Nat.pos_of_mul_pos_right (Nat.zero_lt_of_lt hn)

namespace Pixel

variable {α : Type} {size : Nat} (hsize : 0 < size)
include hsize

/-- A piece begins at a multiple of its length. -/
theorem getElem?_chunks (xs : List α) (q : Nat) : (chunks size xs)[q]? =
    if q * size < xs.length then some ((xs.drop (q * size)).take size) else none := by
  induction xs using chunks.induct size generalizing q with
  | case1 =>
    rw [chunks, List.getElem?_nil, List.length_nil, if_neg (Nat.not_lt_zero _)]
  | case2 x xs ih =>
    obtain ⟨n, rfl⟩ : ∃ n, size = n + 1 := ⟨size - 1, by omega⟩
    rw [Nat.add_sub_cancel] at ih
    rw [chunks, Nat.add_sub_cancel]
    cases q with
    | zero =>
      rw [List.getElem?_cons_zero, Nat.zero_mul, List.length_cons, if_pos (Nat.succ_pos _)]
      rfl
    | succ q =>
      have hstart : (q + 1) * (n + 1) = n + q * (n + 1) + 1 := by ring
      have hlater : q * (n + 1) < (xs.drop n).length ↔
          (q + 1) * (n + 1) < (x :: xs).length := by
        rw [List.length_drop, List.length_cons, hstart]
        omega
      rw [List.getElem?_cons_succ, ih, if_congr hlater rfl rfl, List.drop_drop, hstart,
        List.drop_succ_cons]

/-- Pieces of pieces are pieces. -/
theorem getElem?_chunks_chunks {n : Nat} (xs : List α) (p : Nat) {c : Nat} (hc : c < n) :
    ((chunks (n * size) xs)[p]?.bind fun piece => (chunks size piece)[c]?) =
      (chunks size xs)[p * n + c]? := by
  have hinner : c * size + size ≤ n * size := by
    rw [← Nat.succ_mul]
    exact Nat.mul_le_mul_right _ hc
  have hstart : (p * n + c) * size = p * (n * size) + c * size := by ring
  rw [getElem?_chunks (Nat.mul_pos (Nat.zero_lt_of_lt hc) hsize), getElem?_chunks hsize, hstart]
  by_cases h : p * (n * size) < xs.length
  · have hlength : c * size < ((xs.drop (p * (n * size))).take (n * size)).length ↔
        p * (n * size) + c * size < xs.length := by
      rw [List.length_take, List.length_drop]
      omega
    rw [if_pos h, Option.bind_some, getElem?_chunks hsize, if_congr hlength rfl rfl,
      List.drop_take, List.take_take, List.drop_drop, Nat.min_eq_left (by omega)]
  · rw [if_neg h, if_neg (by omega)]
    rfl

end Pixel

/-! ### The elements of a read -/

namespace PixelData

/-- The element of one channel at one place, in an array whose rows have a width. -/
def element? (d : PixelData) (width channels column row channel : Nat) : Option Nat :=
  d.words[(row * width + column) * channels + channel]?

/-- Bytes that fill an array exactly give one element for so many of them. -/
theorem length_ofBytes {kind : ElementKind} {bs : Bytes} {n : Nat}
    (h : bs.length = n * kind.byteSize) : (ofBytes kind bs).length = n := by
  have hbytes := length_bytes (ofBytes kind bs)
  rw [bytes_ofBytes ⟨n, by rw [h, Nat.mul_comm]⟩, kind_ofBytes, h] at hbytes
  exact (Nat.eq_of_mul_eq_mul_right kind.byteSize_pos hbytes).symm

end PixelData

namespace Software.Texture

variable (t : Texture) {rect : Rect} {format type : UInt32}

/-- The channels of the texels of a rectangle of the first layer, row by row. -/
def components (rect : Rect) (format : UInt32) : List Single :=
  (span rect.y (rect.y + rect.height)).flatMap fun y =>
    (span rect.x (rect.x + rect.width)).flatMap fun x =>
      (t.fetch x y 0).toList.take (channelsOf format)

theorem read_eq : t.read rect format type =
    (t.components rect format).flatMap (encodeComponent format type) := by
  simp only [read, components, List.flatMap_assoc]

/-- The elements of a read are the words of the channels. -/
theorem words_read {kind : ElementKind}
    (hsize : (ComponentType.ofConstant type).size = kind.byteSize) :
    (PixelData.ofBytes kind (t.read rect format type)).words =
      (t.components rect format).map fun x => wordOf (encodeComponent format type x) := by
  have hlength (x : Single) : (encodeComponent format type x).length = kind.byteSize :=
    (length_encodeComponent ..).trans hsize
  have hbytes : kind.byteSize ∣ (t.read rect format type).length := by
    simp only [read_eq, List.length_flatMap, hlength, List.map_const', List.sum_replicate_nat]
    exact Nat.dvd_mul_left ..
  rw [PixelData.words_ofBytes hbytes, read_eq, chunks_flatMap kind.byteSize_pos hlength,
    List.map_map]
  rfl

theorem getElem?_span {start extent : Int32} (hstart : 0 ≤ start.toInt)
    (hextent : 0 < extent.toInt) (hend : start.toInt + extent.toInt ≤ 2147483647) {i : Nat}
    (hi : i < extent.toInt.toNat) :
    (span start (start + extent))[i]? = some (Int32.ofInt (start.toInt + i)) := by
  have hlength := length_span hstart hextent hend
  rw [span, List.length_map, List.length_range] at hlength
  rw [span, hlength, List.getElem?_map, List.getElem?_range hi]
  rfl

variable (hx : 0 ≤ rect.x.toInt) (hy : 0 ≤ rect.y.toInt) (hwidth : 0 < rect.width.toInt)
  (hheight : 0 < rect.height.toInt) (hends : rect.EndsWithin32Bits)
include hx hy hwidth hheight hends

/-- A channel by its place in the rectangle. -/
theorem getElem?_components {i j c : Nat} (hi : i < rect.width.toInt.toNat)
    (hj : j < rect.height.toInt.toNat) (hc : c < channelsOf format) :
    (t.components rect format)[(j * rect.width.toInt.toNat + i) * channelsOf format + c]? =
      (t.fetch (Int32.ofInt (rect.x.toInt + i)) (Int32.ofInt (rect.y.toInt + j)) 0).toList[c]? := by
  have hpixel (x y : Int32) :
      ((t.fetch x y 0).toList.take (channelsOf format)).length = channelsOf format := by
    rw [List.length_take, Vector.length_toList]
    exact Nat.min_eq_left (channelsOf_le format)
  have hrow (y : Int32) : ((span rect.x (rect.x + rect.width)).flatMap fun x =>
      (t.fetch x y 0).toList.take (channelsOf format)).length =
        rect.width.toInt.toNat * channelsOf format := by
    simp only [List.length_flatMap, hpixel, List.map_const', List.sum_replicate_nat,
      length_span hx hwidth hends.1]
  have hindex : (j * rect.width.toInt.toNat + i) * channelsOf format + c =
      j * (rect.width.toInt.toNat * channelsOf format) + (i * channelsOf format + c) := by
    ring
  have hplace : i * channelsOf format + c < rect.width.toInt.toNat * channelsOf format :=
    (mul_add_lt hc hi).trans_eq (Nat.mul_comm ..)
  rw [components, hindex, getElem?_flatMap_of_length hrow hplace,
    getElem?_span hy hheight hends.2 hj, Option.bind_some,
    getElem?_flatMap_of_length (fun x => hpixel x _) hc, getElem?_span hx hwidth hends.1 hi,
    Option.bind_some, List.getElem?_take_of_lt hc]

/-- An element by its place in the rectangle. -/
theorem element?_read {kind : ElementKind}
    (hsize : (ComponentType.ofConstant type).size = kind.byteSize) {i j c : Nat}
    (hi : i < rect.width.toInt.toNat) (hj : j < rect.height.toInt.toNat)
    (hc : c < channelsOf format) :
    (PixelData.ofBytes kind (t.read rect format type)).element? rect.width.toInt.toNat
        (channelsOf format) i j c =
      (t.fetch (Int32.ofInt (rect.x.toInt + i)) (Int32.ofInt (rect.y.toInt + j)) 0).toList[c]?.map
        fun x => wordOf (encodeComponent format type x) := by
  rw [PixelData.element?, t.words_read hsize, List.getElem?_map,
    t.getElem?_components hx hy hwidth hheight hends hi hj hc]

end Software.Texture

namespace TextureFormat

/-- A transfer carries the elements of a pixel. -/
theorem transfer_channels (f : TextureFormat) :
    channelsOf f.info.layout.format = f.info.channels := by
  cases f with
  | depth => rfl
  | color c k => cases c <;> cases k <;> rfl

/-- An element has as many bytes in transfer as in the array that takes it. -/
theorem transfer_element (f : TextureFormat) :
    (ComponentType.ofConstant f.info.layout.type).size = f.info.array.byteSize := by
  cases f with
  | depth => rfl
  | color c k => cases k <;> rfl

end TextureFormat

end DrawPass
