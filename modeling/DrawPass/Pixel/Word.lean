/-
DrawPass/Pixel/Word.lean

Words as bytes, lowest byte first.

`bytesOf` writes a word in a fixed number of bytes and `wordOf` reads one back; a
list that is too short is read as if zero bytes followed, which is how a partial
last element of an array is completed.
-/

namespace DrawPass.Pixel

/-- The lowest `size` bytes of a word, lowest first. -/
def bytesOf : (size : Nat) → Nat → List UInt8
  | 0, _ => []
  | size + 1, w => UInt8.ofNat w :: bytesOf size (w / 256)

/-- The word that bytes spell, lowest first. -/
def wordOf : List UInt8 → Nat
  | [] => 0
  | b :: bs => b.toNat + 256 * wordOf bs

@[simp] theorem length_bytesOf (size w : Nat) : (bytesOf size w).length = size := by
  induction size generalizing w with
  | zero => rfl
  | succ size ih => simp [bytesOf, ih]

/-- A word that fits is read back. -/
theorem wordOf_bytesOf {size w : Nat} (h : w < Nat.pow 256 size) : wordOf (bytesOf size w) = w := by
  induction size generalizing w with
  | zero =>
    have : w = 0 := by simpa using h
    simp [bytesOf, wordOf, this]
  | succ size ih =>
    have h' : w < Nat.pow 256 size * 256 := h
    have hw : w / 256 < Nat.pow 256 size := Nat.div_lt_of_lt_mul (by omega)
    simp [bytesOf, wordOf, ih hw]
    omega

/-- Cut a list into pieces of a given length; the last one may be shorter. A length of zero
counts as one. -/
def chunks {α : Type u} (size : Nat) : List α → List (List α)
  | [] => []
  | x :: xs => (x :: xs.take (size - 1)) :: chunks size (xs.drop (size - 1))
termination_by xs => xs.length
decreasing_by
  rw [List.length_drop, List.length_cons]
  omega

/-- The pieces of full length. -/
def fullChunks {α : Type u} (size : Nat) (xs : List α) : List (List α) :=
  (chunks size xs).filter fun c => c.length == size

end DrawPass.Pixel
