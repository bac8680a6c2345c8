/-
DrawPass/Proofs/ByteViews.lean

Arrays of pixels and bytes as two views of the same memory.

An array that is read from bytes has these bytes again, and behind them as many zero bytes as its
last element lacks.  This is so because zero bytes at the end of a word do not count
(`Pixel.wordOf_append_replicate`), so that completing the bytes first makes no difference
(`PixelData.ofBytes_append_replicate`); bytes that come out even are known to be kept.  An array
that is read from its own bytes is the array (`PixelData.ofBytes_bytes`).
-/
import DrawPass.Proofs.PixelWords

namespace DrawPass

open Gl Pixel

namespace Pixel

theorem wordOf_append_replicate (bs : List UInt8) (n : Nat) :
    wordOf (bs ++ List.replicate n 0) = wordOf bs := by
  induction bs with
  | nil =>
    induction n with
    | zero => rfl
    | succ n ih => simpa [List.replicate_succ, wordOf] using ih
  | cons b bs ih => rw [List.cons_append, wordOf, ih, wordOf]

/-- Zero bytes that complete the last piece leave the words as they are. -/
theorem map_wordOf_chunks_append_replicate {size n : Nat} (hn : n < size) {bs : List UInt8}
    (h : size ∣ bs.length + n) :
    (chunks size (bs ++ List.replicate n 0)).map wordOf = (chunks size bs).map wordOf := by
  have hsize : 0 < size := Nat.zero_lt_of_lt hn
  refine List.ext_getElem? fun q => ?_
  -- The zero bytes are fewer than a piece, so no piece begins in them.
  have hbegins : q * size < bs.length + n ↔ q * size < bs.length := by
    obtain ⟨pieces, hpieces⟩ := h
    refine ⟨fun hlt => ?_, fun hlt => Nat.lt_add_right n hlt⟩
    have hle : (q + 1) * size ≤ bs.length + n := by
      rw [hpieces, Nat.mul_comm size] at hlt ⊢
      exact Nat.mul_le_mul_right _ (Nat.lt_of_mul_lt_mul_right hlt)
    rw [Nat.succ_mul] at hle
    omega
  rw [List.getElem?_map, List.getElem?_map, getElem?_chunks hsize, getElem?_chunks hsize,
    List.length_append, List.length_replicate, if_congr hbegins rfl rfl]
  split
  · rename_i hlt
    rw [List.drop_append_of_le_length (Nat.le_of_lt hlt), List.take_append, List.take_replicate]
    exact congrArg some (wordOf_append_replicate _ _)
  · rfl

end Pixel

namespace PixelData

variable {kind : ElementKind} {bs : Bytes} {n : Nat}

/-- The bytes of an array spell its elements, lowest byte first. -/
theorem map_wordOf_chunks_bytes (d : PixelData) :
    (chunks d.kind.byteSize d.bytes).map wordOf = d.words :=
  chunks_flatMap_bytesOf d.kind.byteSize_pos fun _ hw => lt_of_mem_words hw

theorem ofBytes_bytes (d : PixelData) : ofBytes d.kind d.bytes = d := by
  rw [ofBytes, map_wordOf_chunks_bytes, ofWords_words]

/-- Bytes may be completed before they are read. -/
theorem ofBytes_append_replicate (hn : n < kind.byteSize) (h : kind.byteSize ∣ bs.length + n) :
    ofBytes kind (bs ++ List.replicate n 0) = ofBytes kind bs := by
  rw [ofBytes, map_wordOf_chunks_append_replicate hn h, ofBytes]

/-- Every length is completed by fewer bytes than an element has. -/
theorem exists_dvd_add (kind : ElementKind) (length : Nat) :
    ∃ n < kind.byteSize, kind.byteSize ∣ length + n ∧
      (length + n) / kind.byteSize = (length + kind.byteSize - 1) / kind.byteSize := by
  refine ⟨(kind.byteSize - length % kind.byteSize) % kind.byteSize,
    Nat.mod_lt _ kind.byteSize_pos, ?_⟩
  cases kind <;> simp only [ElementKind.byteSize] <;> omega

/-- An array has the bytes that it is read from, then zero bytes up to the end of an element. -/
theorem bytes_ofBytes_append (hn : n < kind.byteSize) (h : kind.byteSize ∣ bs.length + n) :
    (ofBytes kind bs).bytes = bs ++ List.replicate n 0 := by
  rw [← ofBytes_append_replicate hn h]
  refine bytes_ofBytes ?_
  rwa [List.length_append, List.length_replicate]

end PixelData

/-- Arrays of pixels and bytes are views of each other.  Bytes that stop within an element are
completed with zero bytes, and overwriting bytes at the front leaves the others alone. -/
theorem arrays_and_bytes_agree (kind : ElementKind) (bs : Bytes) (d : PixelData) :
    (PixelData.ofBytes kind bs).kind = kind ∧
    (∃ n < kind.byteSize, kind.byteSize ∣ bs.length + n ∧
      (PixelData.ofBytes kind bs).bytes = bs ++ List.replicate n 0) ∧
    (PixelData.ofBytes kind bs).length = (bs.length + kind.byteSize - 1) / kind.byteSize ∧
    PixelData.ofBytes d.kind d.bytes = d ∧
    (chunks d.kind.byteSize d.bytes).map wordOf = d.words ∧
    (d.writeBytes bs).kind = d.kind ∧
    (d.writeBytes bs).bytes = bs.take d.bytes.length ++ d.bytes.drop bs.length := by
  obtain ⟨n, hn, hdvd, hceil⟩ := PixelData.exists_dvd_add kind bs.length
  have hbytes := PixelData.bytes_ofBytes_append hn hdvd
  refine ⟨PixelData.kind_ofBytes .., ⟨n, hn, hdvd, hbytes⟩, ?_, d.ofBytes_bytes,
    d.map_wordOf_chunks_bytes, d.kind_writeBytes bs, d.bytes_writeBytes bs⟩
  have hlength := PixelData.length_bytes (PixelData.ofBytes kind bs)
  rw [hbytes, PixelData.kind_ofBytes, List.length_append, List.length_replicate] at hlength
  rw [← hceil, hlength, Nat.mul_div_cancel _ kind.byteSize_pos]

/-- Five bytes are two elements of four bytes. -/
example : (PixelData.ofBytes .u32 [1, 2, 3, 4, 5]).words = [67305985, 5] := by cbv

end DrawPass
