/-
DrawPass/Proofs/PixelBytes.lean

Arrays of pixels and their bytes.

Bytes that fill an array exactly are the bytes of the array that they spell
(`bytes_ofBytes`), so an array that has been written to has the bytes that were written
in front and its own behind them (`bytes_writeBytes`).
-/
import DrawPass.Pixel.Data
import Mathlib.Algebra.Group.Nat.Defs

namespace DrawPass

open Gl Pixel

namespace Pixel

theorem wordOf_lt (bs : List UInt8) : wordOf bs < 256 ^ bs.length := by
  induction bs with
  | nil => exact Nat.one_pos
  | cons b bs ih =>
    have hb := b.toNat_lt
    rw [wordOf, List.length_cons, Nat.pow_succ]
    omega

/-- The bytes of a word are those that spell it. -/
theorem bytesOf_wordOf (bs : List UInt8) : bytesOf bs.length (wordOf bs) = bs := by
  induction bs with
  | nil => rfl
  | cons b bs ih =>
    have hb := b.toNat_lt
    have hlow : UInt8.ofNat (b.toNat + 256 * wordOf bs) = b := by
      apply UInt8.toNat_inj.1
      rw [UInt8.toNat_ofNat']
      omega
    have hhigh : (b.toNat + 256 * wordOf bs) / 256 = wordOf bs := by omega
    rw [List.length_cons, wordOf, bytesOf, hlow, hhigh, ih]

/-- Pieces that come out even have the full length. -/
theorem length_of_mem_chunks {α : Type} {size : Nat} (hsize : 0 < size) (xs : List α)
    (h : size ∣ xs.length) : ∀ c ∈ chunks size xs, c.length = size := by
  induction xs using chunks.induct size with
  | case1 =>
    rw [chunks]
    exact fun _ hc => nomatch hc
  | case2 x xs ih =>
    have hle : size ≤ xs.length + 1 := Nat.le_of_dvd (Nat.succ_pos _) h
    have hrest : size ∣ (xs.drop (size - 1)).length := by
      rw [List.length_drop]
      have hsub : xs.length - (size - 1) = (x :: xs).length - size := by
        rw [List.length_cons]
        omega
      rw [hsub]
      exact Nat.dvd_sub h (Nat.dvd_refl size)
    rw [chunks]
    refine List.forall_mem_cons.2 ⟨?_, ih hrest⟩
    rw [List.length_cons, List.length_take]
    omega

/-- Pieces of full length are cut off one after the other. -/
theorem chunks_append {α : Type} {size : Nat} {first : List α} (hlength : first.length = size)
    (hsize : 0 < size) (rest : List α) :
    chunks size (first ++ rest) = first :: chunks size rest := by
  cases first with
  | nil => exact absurd hlength (Nat.ne_of_lt hsize)
  | cons a first =>
    have hrest : size - 1 = first.length := by
      rw [← hlength]
      rfl
    rw [List.cons_append, chunks, hrest, List.take_left, List.drop_left]

theorem chunks_flatMap {α β : Type} {size : Nat} (hsize : 0 < size) {f : β → List α}
    (hf : ∀ b, (f b).length = size) (bs : List β) : chunks size (bs.flatMap f) = bs.map f := by
  induction bs with
  | nil => rw [List.flatMap_nil, chunks, List.map_nil]
  | cons b bs ih => rw [List.flatMap_cons, chunks_append (hf b) hsize, ih, List.map_cons]

/-- Words that fit are read back from their bytes. -/
theorem chunks_flatMap_bytesOf {size : Nat} (hsize : 0 < size) {words : List Nat}
    (h : ∀ w ∈ words, w < Nat.pow 256 size) :
    (chunks size (words.flatMap (bytesOf size))).map wordOf = words := by
  rw [chunks_flatMap hsize (length_bytesOf size), List.map_map]
  exact (List.map_congr_left fun w hw => wordOf_bytesOf (h w hw)).trans (List.map_id' words)

theorem flatten_chunks {α : Type} (size : Nat) (xs : List α) : (chunks size xs).flatten = xs := by
  induction xs using chunks.induct size with
  | case1 =>
    rw [chunks]
    rfl
  | case2 x xs ih =>
    rw [chunks, List.flatten_cons, ih, List.cons_append, List.take_append_drop]

/-- Words read from pieces and written again are the pieces. -/
theorem flatMap_bytesOf_chunks {size : Nat} (hsize : 0 < size) {bs : List UInt8}
    (h : size ∣ bs.length) : ((chunks size bs).map wordOf).flatMap (bytesOf size) = bs := by
  have hpieces : (chunks size bs).map (bytesOf size ∘ wordOf) = (chunks size bs).map id := by
    apply List.map_congr_left
    intro c hc
    show bytesOf size (wordOf c) = c
    rw [← length_of_mem_chunks hsize bs h c hc, bytesOf_wordOf]
  rw [List.flatMap_def, List.map_map, hpieces, List.map_id, flatten_chunks]

end Pixel

theorem ElementKind.byteSize_pos (kind : ElementKind) : 0 < kind.byteSize := by
  cases kind <;> decide

namespace PixelData

@[simp] theorem kind_ofWords (kind : ElementKind) (ws : List Nat) :
    (ofWords kind ws).kind = kind := by
  cases kind <;> rfl

@[simp] theorem kind_ofBytes (kind : ElementKind) (bs : Bytes) :
    (ofBytes kind bs).kind = kind := kind_ofWords ..

@[simp] theorem kind_writeBytes (d : PixelData) (bs : Bytes) : (d.writeBytes bs).kind = d.kind :=
  kind_ofBytes ..

/-- Words that fit the elements are kept as they are. -/
theorem words_ofWords {kind : ElementKind} {ws : List Nat}
    (h : ∀ w ∈ ws, w < 256 ^ kind.byteSize) : (ofWords kind ws).words = ws := by
  have hself {f : Nat → Nat} (hf : ∀ w, f w = w % 256 ^ kind.byteSize) : ws.map f = ws := by
    rw [List.map_congr_left fun w hw => (hf w).trans (Nat.mod_eq_of_lt (h w hw)), List.map_id']
  cases kind <;> simp only [ofWords, words, List.map_map]
  case u8 => exact hself fun w => UInt8.toNat_ofNat'
  case i8 => exact hself fun w => UInt8.toNat_ofNat'
  case u16 => exact hself fun w => UInt16.toNat_ofNat'
  case i16 => exact hself fun w => UInt16.toNat_ofNat'
  case u32 => exact hself fun w => UInt32.toNat_ofNat'
  case i32 => exact hself fun w => UInt32.toNat_ofNat'
  case f32 => exact hself fun w => UInt32.toNat_ofNat'

theorem ofWords_words (d : PixelData) : ofWords d.kind d.words = d := by
  have hself {α : Type} {f : Nat → α} {g : α → Nat} (hfg : ∀ a, f (g a) = a) (v : List α) :
      (v.map g).map f = v := by
    rw [List.map_map]
    exact (List.map_congr_left fun a _ => hfg a).trans (List.map_id' v)
  cases d with
  | u8 v => exact congrArg u8 (hself (fun a => UInt8.ofNat_toNat) v)
  | i8 v => exact congrArg i8 (hself (fun a => by simp) v)
  | u16 v => exact congrArg u16 (hself (fun a => UInt16.ofNat_toNat) v)
  | i16 v => exact congrArg i16 (hself (fun a => by simp) v)
  | u32 v => exact congrArg u32 (hself (fun a => UInt32.ofNat_toNat) v)
  | i32 v => exact congrArg i32 (hself (fun a => by simp) v)
  | f32 v => exact congrArg f32 (hself (fun a => by simp) v)

theorem ext_words {d d' : PixelData} (hkind : d.kind = d'.kind) (h : d.words = d'.words) :
    d = d' := by
  rw [← ofWords_words d, hkind, h, ofWords_words]

theorem lt_of_mem_words {d : PixelData} {w : Nat} (h : w ∈ d.words) :
    w < 256 ^ d.kind.byteSize := by
  cases d <;> obtain ⟨a, -, rfl⟩ := List.mem_map.1 h
  case u8 => exact a.toNat_lt
  case i8 => exact a.toUInt8.toNat_lt
  case u16 => exact a.toNat_lt
  case i16 => exact a.toUInt16.toNat_lt
  case u32 => exact a.toNat_lt
  case i32 => exact a.toUInt32.toNat_lt
  case f32 => exact a.bits.toNat_lt

/-- Bytes that fill an array exactly are read word by word. -/
theorem words_ofBytes {kind : ElementKind} {bs : Bytes} (h : kind.byteSize ∣ bs.length) :
    (ofBytes kind bs).words = (chunks kind.byteSize bs).map wordOf := by
  apply words_ofWords
  intro w hw
  obtain ⟨c, hc, rfl⟩ := List.mem_map.1 hw
  rw [← length_of_mem_chunks kind.byteSize_pos bs h c hc]
  exact wordOf_lt c

/-- Bytes that fill an array exactly are its bytes. -/
theorem bytes_ofBytes {kind : ElementKind} {bs : Bytes} (h : kind.byteSize ∣ bs.length) :
    (ofBytes kind bs).bytes = bs := by
  rw [bytes, words_ofBytes h, kind_ofBytes, flatMap_bytesOf_chunks kind.byteSize_pos h]

theorem length_bytes (d : PixelData) : d.bytes.length = d.length * d.kind.byteSize := by
  simp only [bytes, List.length_flatMap, length_bytesOf, List.map_const', List.sum_replicate_nat,
    length]

theorem length_zeroed (kind : ElementKind) (n : Nat) : (zeroed kind n).length = n := by
  rw [length, zeroed, words_ofWords, List.length_replicate]
  intro w hw
  rw [List.eq_of_mem_replicate hw]
  exact Nat.pow_pos (by decide)

end PixelData

namespace Gl

theorem length_overwrite (memory data : Bytes) :
    (overwrite memory data).length = memory.length := by
  rw [overwrite, List.length_append, List.length_take, List.length_drop]
  omega

/-- Data that is no longer than the memory ends up in front. -/
theorem overwrite_eq {memory data : Bytes} (h : data.length ≤ memory.length) :
    overwrite memory data = data ++ memory.drop data.length := by
  rw [overwrite, List.take_of_length_le h]

end Gl

/-- An array that has been written to. -/
theorem PixelData.bytes_writeBytes (d : PixelData) (bs : Bytes) :
    (d.writeBytes bs).bytes = overwrite d.bytes bs := by
  apply bytes_ofBytes
  rw [length_overwrite, length_bytes]
  exact Nat.dvd_mul_left ..

end DrawPass
