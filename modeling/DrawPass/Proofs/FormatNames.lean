/-
DrawPass/Proofs/FormatNames.lean

Which texts are names of formats.

The letters of one format may begin the letters of another, and the suffix of one may begin the
suffix of another.  A reader that takes as many letters as it can and never goes back is right all
the same, because a suffix begins with a digit (`Channels.split?_letters_append`).  So reading
undoes printing and accepts nothing else (`TextureFormat.parse_eq_ok_iff`).

A name has no plus sign.  So cutting the name of a target's format at the first one leaves the
colours in front (`TargetFormat.parse_append`), and both kinds of names are settled together
(`formats_are_read_by_name`).
-/
import DrawPass.Pixel.Format
import Mathlib.Data.List.TakeWhile

namespace DrawPass

variable {text rest : List Char} {s : String}

/-! ### Letters and suffixes -/

namespace Channels

variable {c : Channels}

/-- What is split off are the letters of the channels. -/
theorem eq_letters_append_of_split? (h : split? text = some (c, rest)) :
    text = c.letters ++ rest := by
  unfold split? at h
  split at h <;> cases h <;> rfl

/-- The letters are split off as a whole if no further one follows. -/
theorem split?_letters_append (c : Channels) (h : ∀ x ∈ rest.head?, x ∉ ['g', 'b', 'a']) :
    split? (c.letters ++ rest) = some (c, rest) := by
  cases rest with
  | nil => cases c <;> rfl
  | cons x rest =>
    have hx : x ≠ 'g' ∧ x ≠ 'b' ∧ x ≠ 'a' := by simpa using h x rfl
    cases c <;> simp [split?, letters, hx]

end Channels

namespace Scalar

theorem ofSuffix?_eq_some_iff {k : Scalar} : ofSuffix? text = some k ↔ text = k.suffix := by
  constructor
  · intro h
    have hends := List.find?_some (p := fun k : Scalar => k.suffix == text) h
    exact (beq_iff_eq.1 hends).symm
  · rintro rfl
    cases k <;> rfl

/-- A suffix begins with a digit, so with no letter of a channel. -/
theorem not_mem_letters_of_head?_suffix (k : Scalar) :
    ∀ x ∈ k.suffix.head?, x ∉ ['g', 'b', 'a'] := by
  intro x hx
  cases k <;> cases hx <;> decide

end Scalar

/-! ### Formats of textures -/

namespace TextureFormat

variable {f : TextureFormat}

theorem toList_name_color (c : Channels) (k : Scalar) :
    (color c k).name.toList = c.letters ++ k.suffix := String.toList_ofList

theorem name_color_ne_depth (c : Channels) (k : Scalar) : (color c k).name ≠ "depth" := by
  intro h
  have htext : c.letters ++ k.suffix = "depth".toList := by rw [← toList_name_color, h]
  cases c <;> cases k <;> exact absurd htext (by decide)

/-- A name has no plus sign. -/
theorem plus_not_mem_name (f : TextureFormat) : '+' ∉ f.name.toList := by
  cases f with
  | depth => decide
  | color c k =>
    rw [toList_name_color]
    cases c <;> cases k <;> decide

/-- The format of a name is the one that has the name. -/
theorem ofName?_eq_some_iff : ofName? s = some f ↔ s = f.name := by
  unfold ofName?
  by_cases hdepth : s = "depth"
  · subst hdepth
    rw [if_pos rfl]
    cases f with
    | depth => exact iff_of_true rfl rfl
    | color c k => exact iff_of_false nofun (name_color_ne_depth c k).symm
  · rw [if_neg hdepth]
    constructor
    · intro h
      obtain ⟨⟨c, rest⟩, hsplit, h⟩ := Option.bind_eq_some_iff.1 h
      obtain ⟨k, hk, rfl⟩ := Option.map_eq_some_iff.1 h
      rw [← String.toList_inj, toList_name_color, ← Scalar.ofSuffix?_eq_some_iff.1 hk]
      exact Channels.eq_letters_append_of_split? hsplit
    · rintro rfl
      cases f with
      | depth => exact absurd rfl hdepth
      | color c k =>
        have hsplit := Channels.split?_letters_append c k.not_mem_letters_of_head?_suffix
        have hsuffix : Scalar.ofSuffix? k.suffix = some k := Scalar.ofSuffix?_eq_some_iff.2 rfl
        rw [toList_name_color, hsplit, Option.bind_some]
        exact congrArg (Option.map (color c)) hsuffix

theorem parse_eq_ok_iff : parse s = .ok f ↔ s = f.name := by
  rw [← ofName?_eq_some_iff]
  unfold parse
  cases ofName? s <;> simp

/-- A text that is no name is the error. -/
theorem parse_eq_error_iff {e : UnknownFormat} :
    parse s = .error e ↔ e = ⟨s⟩ ∧ ∀ f : TextureFormat, s ≠ f.name := by
  have hnone : ofName? s = none ↔ ∀ f : TextureFormat, s ≠ f.name := by
    rw [Option.eq_none_iff_forall_ne_some]
    exact forall_congr' fun f => not_congr ofName?_eq_some_iff
  rw [← hnone]
  unfold parse
  cases ofName? s <;> simp [eq_comm]

end TextureFormat

/-! ### Formats of targets -/

namespace TargetFormat

theorem exists_append_of_mem (h : '+' ∈ s.toList) :
    ∃ name rest : String, s = name ++ "+" ++ rest ∧ '+' ∉ name.toList := by
  obtain ⟨name, rest, heq, hname⟩ := List.eq_append_cons_of_mem h
  refine ⟨.ofList name, .ofList rest, ?_, by simpa using hname⟩
  rw [← String.toList_inj, heq]
  simp

/-- Without a plus sign the whole text names the colours. -/
theorem parse_of_not_mem (h : '+' ∉ s.toList) :
    parse s = (TextureFormat.parse s).map fun f => ⟨f, false⟩ := by
  have hnone : s.toList.dropWhile (· != '+') = [] := by
    rw [List.dropWhile_eq_nil_iff]
    exact fun x hx => bne_iff_ne.2 fun hplus => h (hplus ▸ hx)
  unfold parse
  rw [hnone]

/-- A text with a plus sign is cut at the first one. -/
theorem parse_append {name rest : String} (h : '+' ∉ name.toList) :
    parse (name ++ "+" ++ rest) =
      if rest = "depth" then (TextureFormat.parse name).map fun f => ⟨f, true⟩
      else .error ⟨name ++ "+" ++ rest⟩ := by
  have hname : ∀ x ∈ name.toList, (x != '+') = true := fun x hx =>
    bne_iff_ne.2 fun hplus => h (hplus ▸ hx)
  have htext : (name ++ "+" ++ rest).toList = name.toList ++ '+' :: rest.toList := by simp
  unfold parse
  rw [htext, List.takeWhile_append_of_pos hname, List.dropWhile_append_of_pos hname]
  simp

theorem map_parse_eq_ok_iff {f : TextureFormat} {d d' : Bool} :
    ((TextureFormat.parse s).map fun f => (⟨f, d⟩ : TargetFormat)) = .ok ⟨f, d'⟩ ↔
      s = f.name ∧ d = d' := by
  rw [← TextureFormat.parse_eq_ok_iff]
  cases TextureFormat.parse s <;> simp [Except.map]

/-- A target's format is named by its colours, with a suffix if it has a depth companion. -/
theorem parse_eq_ok_iff {f : TargetFormat} :
    parse s = .ok f ↔ s = f.color.name ++ if f.withDepth then "+depth" else "" := by
  obtain ⟨color, withDepth⟩ := f
  have hsuffix (name : String) : name ++ "+depth" = name ++ "+" ++ "depth" := by
    rw [String.append_assoc]
    rfl
  constructor
  · intro h
    -- The first plus sign ends the name of the colours.
    by_cases hplus : '+' ∈ s.toList
    · obtain ⟨name, rest, rfl, hname⟩ := exists_append_of_mem hplus
      rw [parse_append hname] at h
      split at h
      · obtain ⟨rfl, rfl⟩ := map_parse_eq_ok_iff.1 h
        rename_i hrest
        rw [hrest]
        exact (hsuffix _).symm
      · cases h
    · rw [parse_of_not_mem hplus] at h
      obtain ⟨rfl, rfl⟩ := map_parse_eq_ok_iff.1 h
      exact (String.append_empty).symm
  · rintro rfl
    cases withDepth with
    | false =>
      have hname : color.name ++ (if (false : Bool) then "+depth" else "") = color.name :=
        String.append_empty
      rw [hname, parse_of_not_mem color.plus_not_mem_name]
      exact map_parse_eq_ok_iff.2 ⟨rfl, rfl⟩
    | true =>
      rw [if_pos rfl, hsuffix, parse_append color.plus_not_mem_name, if_pos rfl]
      exact map_parse_eq_ok_iff.2 ⟨rfl, rfl⟩

end TargetFormat

/-- The formats of textures are read by their names and by no other text, which is the error.  The
formats of targets are read by the same names, and with a suffix for a depth companion. -/
theorem formats_are_read_by_name (s : String) (f : TextureFormat) (e : UnknownFormat) :
    (TextureFormat.parse s = .ok f ↔ s = f.name) ∧
    (TextureFormat.parse s = .error e ↔ e = ⟨s⟩ ∧ ∀ f : TextureFormat, s ≠ f.name) ∧
    (TargetFormat.parse s = .ok ⟨f, false⟩ ↔ s = f.name) ∧
    (TargetFormat.parse s = .ok ⟨f, true⟩ ↔ s = f.name ++ "+depth") := by
  refine ⟨TextureFormat.parse_eq_ok_iff, TextureFormat.parse_eq_error_iff, ?_, ?_⟩
  · simpa using TargetFormat.parse_eq_ok_iff (s := s) (f := ⟨f, false⟩)
  · simpa using TargetFormat.parse_eq_ok_iff (s := s) (f := ⟨f, true⟩)

/-- Letters alone are no name. -/
example : TextureFormat.parse "rgba" = .error ⟨"rgba"⟩ := by decide

end DrawPass
