/-
DrawPass/Proofs/Entrywise.lean

Entries of a bag do not meddle with each other.

The options are one record that all entries under reserved names are read into, one after the
other.  But an entry sets the field of its own name and no other, to a value that comes of the
entry alone (`readOption_eq`).  So whether an entry is read, what error there is otherwise, and
what it sets or adds, does not depend on what has been read before (`readEntry_eq`).

A bag is therefore known from its entries, each read as a bag of its own (`split_entrywise`): it is
parted just if each of them is, its error is that of the first one that is not, and the fields of
its options are those that the entries under their names set.  As no two entries have the same
name, it does not matter in which order they stand, but for the order of the uniforms.
-/
import Mathlib.Data.List.Perm.Basic
import DrawPass.Proofs.Bag

namespace DrawPass.Params

open Gl (Rect)

/-! ### The fields of the options -/

/-- What the entry of an option is read into. -/
abbrev OptionName.Field : OptionName → Type
  | .inc => List String
  | .vp => String
  | .fp => String
  | .clear => Option Color
  | .blend => Option String
  | .view => Option Rect
  | .grid => UInt32 × UInt32 × UInt32
  | .mesh => UInt32 × UInt32
  | .aspect => Option Aspect
  | .depthTest => DepthTest
  | .alphaCoverage => Bool
  | .face => Option Face

namespace Options

variable {o o' : Options} {name name' : OptionName}

/-- The field of an option. -/
def field (o : Options) : (name : OptionName) → name.Field
  | .inc => o.includes
  | .vp => o.vertex
  | .fp => o.fragment
  | .clear => o.clear
  | .blend => o.blend
  | .view => o.view
  | .grid => o.grid
  | .mesh => o.mesh
  | .aspect => o.aspect
  | .depthTest => o.depthTest
  | .alphaCoverage => o.alphaCoverage
  | .face => o.face

/-- The options with another value in the field of one. -/
def set (o : Options) : (name : OptionName) → name.Field → Options
  | .inc, v => { o with includes := v }
  | .vp, v => { o with vertex := v }
  | .fp, v => { o with fragment := v }
  | .clear, v => { o with clear := v }
  | .blend, v => { o with blend := v }
  | .view, v => { o with view := v }
  | .grid, v => { o with grid := v }
  | .mesh, v => { o with mesh := v }
  | .aspect, v => { o with aspect := v }
  | .depthTest, v => { o with depthTest := v }
  | .alphaCoverage, v => { o with alphaCoverage := v }
  | .face, v => { o with face := v }

theorem field_set_self (o : Options) (name : OptionName) (v : name.Field) :
    (o.set name v).field name = v := by
  cases name <;> rfl

theorem field_set_of_ne (o : Options) (v : name.Field) (h : name' ≠ name) :
    (o.set name v).field name' = o.field name' := by
  cases name <;> cases name' <;> first | rfl | exact absurd rfl h

/-- Options are the same if all of their fields are. -/
theorem ext_field (h : ∀ name, o.field name = o'.field name) : o = o' := by
  cases o
  cases o'
  rw [mk.injEq]
  exact ⟨h .inc, h .vp, h .fp, h .clear, h .blend, h .view, h .grid, h .mesh, h .aspect,
    h .depthTest, h .alphaCoverage, h .face⟩

end Options

/-! ### One entry -/

section

variable {name : OptionName} {key : String} {value : ParamValue}

/-- What the entry of an option is read into, without any options before it. -/
def readField (name : OptionName) (value : ParamValue) : Except DrawError name.Field :=
  (readOption {} name value).map (·.field name)

theorem readOption_of_field {x : Except DrawError name.Field}
    (h : ∀ o : Options, readOption o name value = x.map (o.set name)) (o : Options) :
    readOption o name value = (readField name value).map (o.set name) := by
  rw [readField, h o, h {}]
  cases x with
  | error e => rfl
  | ok v =>
    have hfield := Options.field_set_self {} name v
    exact congrArg (fun v => Except.ok (o.set name v)) hfield.symm

/-- An entry that has to have some form sets a field to what comes of this form. -/
theorem readOption_of_form {α : Type} {x : Except DrawError α} {f : α → name.Field}
    (h : ∀ o : Options, readOption o name value = x >>= fun a => pure (o.set name (f a)))
    (o : Options) : readOption o name value = (readField name value).map (o.set name) := by
  refine readOption_of_field (x := x.map f) (fun o => ?_) o
  rw [h o]
  cases x <;> rfl

/-- An entry under a reserved name sets the field of this name, to a value that comes of the entry
alone, or it is refused, for a reason that comes of it alone. -/
theorem readOption_eq (o : Options) (name : OptionName) (value : ParamValue) :
    readOption o name value = (readField name value).map (o.set name) := by
  cases name with
  | inc =>
    unfold readField readOption
    cases value <;> rfl
  | vp => exact readOption_of_form (f := fun v => v) (fun _ => rfl) o
  | fp => exact readOption_of_form (f := fun v => v) (fun _ => rfl) o
  | clear => exact readOption_of_form (f := some) (fun _ => rfl) o
  | blend => exact readOption_of_form (f := some) (fun _ => rfl) o
  | view => exact readOption_of_form (f := some) (fun _ => rfl) o
  | grid => exact readOption_of_form (f := fun v => v) (fun _ => rfl) o
  | mesh => exact readOption_of_form (f := fun v => v) (fun _ => rfl) o
  | aspect =>
    -- The form is a text first, and the name of a mode then.
    exact readOption_of_form (f := some) (fun _ => (bind_assoc _ Aspect.parse _).symm) o
  | depthTest =>
    by_cases hkeep : value = .text "keep"
    · have hread (o : Options) : readOption o .depthTest value = _ := if_pos hkeep
      exact readOption_of_field (x := .ok DepthTest.keep) hread o
    · have hread (o : Options) : readOption o .depthTest value = _ := if_neg hkeep
      exact readOption_of_form hread o
  | alphaCoverage => exact readOption_of_form (fun _ => rfl) o
  | face => exact readOption_of_form (f := some) (fun _ => rfl) o

/-- A key stands for the option whose name it is. -/
theorem OptionName.ofKey?_eq_some_iff : OptionName.ofKey? key = some name ↔ key = name.key := by
  constructor
  · intro h
    have hkey := List.find?_some h
    exact (eq_of_beq hkey).symm
  · rintro rfl
    cases name <;> rfl

/-- Whatever has been read before, an entry under a reserved name sets the field of this name,
another one that is no text is a uniform, and any other entry is refused. -/
theorem readEntry_cases (key : String) (value : ParamValue) :
    (∃ name v, key = OptionName.key name ∧ readField name value = .ok v ∧
        ∀ read, readEntry read key value = .ok (read.1.set name v, read.2)) ∨
      (∃ v, OptionName.ofKey? key = none ∧ value = .uniform v ∧
        ∀ read, readEntry read key value = .ok (read.1, read.2.insert key v)) ∨
      ∃ e, ∀ read, readEntry read key value = .error e := by
  cases hkey : OptionName.ofKey? key with
  | some name =>
    have hread (read : Options × Uniform.Values) : readEntry read key value =
        ((readField name value).map (read.1.set name)).map fun o => (o, read.2) := by
      unfold readEntry
      rw [hkey, ← readOption_eq]
    cases hfield : readField name value with
    | error e =>
      rw [hfield] at hread
      exact .inr (.inr ⟨e, hread⟩)
    | ok v =>
      rw [hfield] at hread
      exact .inl ⟨name, v, OptionName.ofKey?_eq_some_iff.1 hkey, hfield, hread⟩
  | none =>
    unfold readEntry
    rw [hkey]
    cases value with
    | uniform v => exact .inr (.inl ⟨v, rfl, rfl, fun _ => rfl⟩)
    | text | texts => exact .inr (.inr ⟨_, fun _ => rfl⟩)

/-! ### An entry alone -/

/-- The bag of one entry. -/
def Bag.alone (entry : String × ParamValue) : Bag := Table.empty.insert entry.1 entry.2

/-- An entry is valid on its own: the bag of this entry is parted. -/
def ValidAlone (entry : String × ParamValue) : Prop := ∃ read, split (.alone entry) = .ok read

theorem split_alone (entry : String × ParamValue) :
    split (.alone entry) = readEntry ({}, .empty) entry.1 entry.2 := by
  have hentries : (Bag.alone entry).entries = [entry] := rfl
  rw [split, hentries, List.foldlM_cons]
  exact bind_pure _

/-- An entry is read, or refused, as it is on its own. -/
theorem readEntry_eq_error_iff {read : Options × Uniform.Values} {entry : String × ParamValue}
    {e : DrawError} :
    readEntry read entry.1 entry.2 = .error e ↔ split (.alone entry) = .error e := by
  rw [split_alone]
  rcases readEntry_cases entry.1 entry.2 with ⟨_, _, _, _, hread⟩ | ⟨_, _, _, hread⟩ | ⟨_, hread⟩
  · exact iff_of_false (by simp [hread]) (by simp [hread])
  · exact iff_of_false (by simp [hread]) (by simp [hread])
  · rw [hread, hread]

theorem validAlone_iff {entry : String × ParamValue} :
    ValidAlone entry ↔ ∀ e, split (.alone entry) ≠ .error e := by
  unfold ValidAlone
  cases split (.alone entry) with
  | error e => exact iff_of_false (fun ⟨_, h⟩ => by cases h) (fun h => h e rfl)
  | ok read => exact iff_of_true ⟨read, rfl⟩ (fun _ h => by cases h)

theorem ValidAlone.of_readEntry {read read' : Options × Uniform.Values}
    {entry : String × ParamValue} (h : readEntry read entry.1 entry.2 = .ok read') :
    ValidAlone entry := by
  rw [validAlone_iff]
  intro e he
  rw [readEntry_eq_error_iff.2 he] at h
  cases h

/-- The field that the entry of an option yields on its own. -/
theorem map_field_split_alone (name : OptionName) (value : ParamValue) :
    (split (.alone (name.key, value))).map (fun read => read.1.field name) =
      readField name value := by
  rw [split_alone]
  unfold readEntry readField
  rw [OptionName.ofKey?_eq_some_iff.2 rfl]
  dsimp only
  cases readOption {} name value <;> rfl

end

/-! ### Entry by entry -/

/-- A uniform as an entry of a bag. -/
def asParameter (entry : String × Uniform.Value) : String × ParamValue :=
  (entry.1, .uniform entry.2)

/-- The name of an entry is not reserved. -/
def isUnreserved (entry : String × ParamValue) : Bool := (OptionName.ofKey? entry.1).isNone

section

variable {entries : List (String × ParamValue)} {read read' : Options × Uniform.Values}

/-- The error is that of the first entry that is not valid on its own. -/
theorem foldlM_readEntry_eq_error_iff {e : DrawError} :
    entries.foldlM (fun read entry => readEntry read entry.1 entry.2) read = .error e ↔
      ∃ before entry after, entries = before ++ entry :: after ∧
        (∀ earlier ∈ before, ValidAlone earlier) ∧ split (.alone entry) = .error e := by
  induction entries generalizing read with
  | nil =>
    refine iff_of_false (fun h => by cases h) ?_
    rintro ⟨before, entry, after, hentries, -⟩
    cases before <;> cases hentries
  | cons first entries ih =>
    rw [List.foldlM_cons]
    rcases hfirst : readEntry read first.1 first.2 with e' | next
    -- The first entry is refused, so nothing stands before the one that the error is from.
    · have halone := readEntry_eq_error_iff.1 hfirst
      constructor
      · rintro ⟨⟩
        exact ⟨[], first, entries, rfl, List.forall_mem_nil _, halone⟩
      · rintro ⟨before, entry, after, hentries, hbefore, hentry⟩
        cases before with
        | nil =>
          injection hentries with hhead
          rw [hhead] at halone
          exact halone.symm.trans hentry
        | cons head before =>
          injection hentries with hhead
          rw [hhead] at halone
          exact absurd halone (validAlone_iff.1 (hbefore head List.mem_cons_self) e')
    -- The first entry is read, so the error is from a later one.
    · have hvalid := ValidAlone.of_readEntry hfirst
      refine ih.trans ?_
      constructor
      · rintro ⟨before, entry, after, rfl, hbefore, hentry⟩
        refine ⟨first :: before, entry, after, rfl, ?_, hentry⟩
        rw [List.forall_mem_cons]
        exact ⟨hvalid, hbefore⟩
      · rintro ⟨before, entry, after, hentries, hbefore, hentry⟩
        cases before with
        | nil =>
          injection hentries with hhead
          rw [hhead] at hvalid
          exact absurd hentry (validAlone_iff.1 hvalid e)
        | cons head before =>
          injection hentries with hhead hentries
          exact ⟨before, entry, after, hentries, fun earlier hearlier =>
            hbefore earlier (List.mem_cons_of_mem _ hearlier), hentry⟩

/-- What entries make of what has been read before, if none is refused. -/
structure Reads (entries : List (String × ParamValue)) (read read' : Options × Uniform.Values) :
    Prop where
  valid : ∀ entry ∈ entries, ValidAlone entry
  given : ∀ name value, Table.find (OptionName.key name) entries = some value →
    readField name value = .ok (read'.1.field name)
  absent : ∀ name, Table.find (OptionName.key name) entries = none →
    read'.1.field name = read.1.field name
  uniforms : read'.2.entries.map asParameter =
    read.2.entries.map asParameter ++ entries.filter isUnreserved

namespace Reads

variable {name : OptionName} {key : String} {value : ParamValue}

/-- An entry that sets a field comes first. -/
theorem cons_option {v : name.Field} (h : Reads entries (read.1.set name v, read.2) read')
    (hvalid : ValidAlone (name.key, value)) (hfield : readField name value = .ok v)
    (hlater : Table.find name.key entries = none) :
    Reads ((name.key, value) :: entries) read read' := by
  refine ⟨?_, ?_, ?_, ?_⟩
  · rw [List.forall_mem_cons]
    exact ⟨hvalid, h.valid⟩
  · intro name' value' hfind
    rw [Table.find] at hfind
    split at hfind
    · rename_i hkey
      cases hfind
      have hname := OptionName.ofKey?_eq_some_iff.2 hkey
      rw [OptionName.ofKey?_eq_some_iff.2 rfl] at hname
      cases hname
      rw [h.absent name hlater, Options.field_set_self, hfield]
    · exact h.given name' value' hfind
  · intro name' hfind
    rw [Table.find] at hfind
    split at hfind
    · cases hfind
    · rename_i hne
      rw [h.absent name' hfind]
      refine Options.field_set_of_ne _ _ ?_
      rintro rfl
      exact hne rfl
  -- The name of a field is reserved, so the entry is no uniform.
  · have hreserved : isUnreserved (name.key, value) = false := by
      unfold isUnreserved
      rw [OptionName.ofKey?_eq_some_iff.2 rfl]
      rfl
    rw [h.uniforms, List.filter_cons_of_neg (by simp [hreserved])]

/-- A new uniform comes first. -/
theorem cons_uniform {v : Uniform.Value}
    (h : Reads entries (read.1, read.2.insert key v) read')
    (hvalid : ValidAlone (key, .uniform v)) (hkey : OptionName.ofKey? key = none)
    (hnew : key ∉ read.2.keys) : Reads ((key, .uniform v) :: entries) read read' := by
  have hreserved (name : OptionName) : key ≠ name.key := by
    intro hname
    rw [OptionName.ofKey?_eq_some_iff.2 hname] at hkey
    cases hkey
  refine ⟨?_, ?_, ?_, ?_⟩
  · rw [List.forall_mem_cons]
    exact ⟨hvalid, h.valid⟩
  · intro name value' hfind
    rw [Table.find, if_neg (hreserved name)] at hfind
    exact h.given name value' hfind
  · intro name hfind
    rw [Table.find, if_neg (hreserved name)] at hfind
    exact h.absent name hfind
  · have hunreserved : isUnreserved (key, .uniform v) = true := by
      unfold isUnreserved
      rw [hkey]
      rfl
    rw [h.uniforms, Table.entries_insert hnew, List.map_append, List.append_assoc,
      List.filter_cons_of_pos hunreserved]
    rfl

/-- Entries under names of their own, none of which is that of a uniform, are read so. -/
theorem of_foldlM (hdistinct : (entries.map Prod.fst).Nodup)
    (hnew : ∀ key ∈ entries.map Prod.fst, key ∉ read.2.keys)
    (h : entries.foldlM (fun read entry => readEntry read entry.1 entry.2) read = .ok read') :
    Reads entries read read' := by
  induction entries generalizing read with
  | nil =>
    cases h
    refine ⟨List.forall_mem_nil _, fun _ _ h => ?_, fun _ _ => rfl, (List.append_nil _).symm⟩
    cases h
  | cons entry entries ih =>
    obtain ⟨key, value⟩ := entry
    rw [List.map_cons, List.nodup_cons] at hdistinct
    rw [List.map_cons, List.forall_mem_cons] at hnew
    rw [List.foldlM_cons] at h
    rcases readEntry_cases key value with
      ⟨name, v, rfl, hfield, hread⟩ | ⟨v, hkey, rfl, hread⟩ | ⟨e, hread⟩
    · rw [hread] at h
      have hlater := Table.find_eq_none hdistinct.1
      exact cons_option (ih hdistinct.2 hnew.2 h) (.of_readEntry (hread read)) hfield hlater
    · rw [hread] at h
      -- No later entry has the name of the uniform that has just been read.
      have hkeys : ∀ key' ∈ entries.map Prod.fst, key' ∉ (read.2.insert key v).keys := by
        intro key' hmem
        rw [Table.mem_keys_insert, not_or]
        refine ⟨?_, hnew.2 key' hmem⟩
        rintro rfl
        exact hdistinct.1 hmem
      exact cons_uniform (ih hdistinct.2 hkeys h) (.of_readEntry (hread read)) hkey hnew.1
    · rw [hread] at h
      cases h

theorem of_split {bag : Bag} (h : split bag = .ok read) : Reads bag.entries ({}, .empty) read := by
  rw [split] at h
  have hnew (key : String) : key ∉ (Table.empty : Uniform.Values).keys := List.not_mem_nil
  exact of_foldlM bag.distinct (fun key _ => hnew key) h

end Reads

theorem split_eq_error_iff {bag : Bag} {e : DrawError} : split bag = .error e ↔
    ∃ before entry after, bag.entries = before ++ entry :: after ∧
      (∀ earlier ∈ before, ValidAlone earlier) ∧ split (.alone entry) = .error e := by
  rw [split]
  exact foldlM_readEntry_eq_error_iff

/-- A bag is parted just if each of its entries is valid on its own. -/
theorem exists_split_iff (bag : Bag) :
    (∃ read, split bag = .ok read) ↔ ∀ entry ∈ bag.entries, ValidAlone entry := by
  cases hsplit : split bag with
  | ok read => exact iff_of_true ⟨read, rfl⟩ (Reads.of_split hsplit).valid
  | error e =>
    obtain ⟨before, entry, after, hentries, -, herror⟩ := split_eq_error_iff.1 hsplit
    refine iff_of_false (fun ⟨_, h⟩ => by cases h) fun hall => ?_
    have hentry : entry ∈ bag.entries := by simp [hentries]
    exact validAlone_iff.1 (hall entry hentry) e herror

end

/-! ### A bag -/

/-- What a bag is parted into, known from its entries: a field of the options is the one that the
entry under the name of this option yields on its own, or as it is without such an entry, and the
uniforms are the entries under names that are not reserved, as they stand in the bag. -/
structure Parted (bag : Bag) (options : Options) (uniforms : Uniform.Values) : Prop where
  given : ∀ name value, bag.get? (OptionName.key name) = some value →
    (split (.alone (name.key, value))).map (fun read => read.1.field name) =
      .ok (options.field name)
  absent : ∀ name, bag.get? (OptionName.key name) = none →
    options.field name = Options.field {} name
  listed : uniforms.entries.map asParameter = bag.entries.filter isUnreserved
  unreserved : ∀ name, uniforms.get? (OptionName.key name) = none

namespace Parted

variable {bag bag' : Bag} {options options' : Options} {uniforms uniforms' : Uniform.Values}

theorem of_split (h : split bag = .ok (options, uniforms)) : Parted bag options uniforms := by
  have hreads := Reads.of_split h
  refine ⟨?_, hreads.absent, hreads.uniforms, ?_⟩
  · intro name value hget
    rw [map_field_split_alone]
    exact hreads.given name value hget
  · intro name
    rw [get?_split h, OptionName.ofKey?_eq_some_iff.2 rfl]
    rfl

section

variable (hperm : bag'.entries.Perm bag.entries)
include hperm

/-- The order of the entries does not matter to the options. -/
theorem options_eq (h : Parted bag options uniforms) (h' : Parted bag' options' uniforms') :
    options' = options := by
  have hget (key : String) : bag'.get? key = bag.get? key := by
    refine Option.ext fun value => ?_
    rw [Table.get?_eq_some_iff, Table.get?_eq_some_iff]
    exact hperm.mem_iff
  refine Options.ext_field fun name => ?_
  cases hvalue : bag.get? name.key with
  | some value =>
    have halone := h'.given name value ((hget _).trans hvalue)
    exact Except.ok.inj (halone.symm.trans (h.given name value hvalue))
  | none => exact (h'.absent name ((hget _).trans hvalue)).trans (h.absent name hvalue).symm

/-- The uniforms are the same ones, in another order. -/
theorem uniforms_perm (h : Parted bag options uniforms) (h' : Parted bag' options' uniforms') :
    uniforms'.entries.Perm uniforms.entries := by
  have hinjective : Function.Injective asParameter := by
    rintro ⟨key, v⟩ ⟨key', v'⟩ heq
    cases heq
    rfl
  rw [← List.map_perm_map_iff hinjective, h'.listed, h.listed]
  exact hperm.filter _

end

end Parted

/-- A bag is parted entry by entry.

It is parted just if each of its entries is valid on its own, and otherwise the error is that of
the first entry that is not.  What it is parted into is known from its entries, each on its own
(`Parted`).  So another bag with the same entries in another order is parted just if this one is,
into the same options, and into the same uniforms in another order. -/
theorem split_entrywise (bag : Bag) :
    ((∃ read, split bag = .ok read) ↔ ∀ entry ∈ bag.entries, ValidAlone entry) ∧
      (∀ e, split bag = .error e ↔ ∃ before entry after, bag.entries = before ++ entry :: after ∧
        (∀ earlier ∈ before, ValidAlone earlier) ∧ split (.alone entry) = .error e) ∧
      (∀ options uniforms, split bag = .ok (options, uniforms) → Parted bag options uniforms) ∧
      ∀ bag' : Bag, bag'.entries.Perm bag.entries →
        ((∃ read, split bag' = .ok read) ↔ ∃ read, split bag = .ok read) ∧
          ∀ options uniforms options' uniforms', split bag = .ok (options, uniforms) →
            split bag' = .ok (options', uniforms') →
              options' = options ∧ uniforms'.entries.Perm uniforms.entries := by
  refine ⟨exists_split_iff bag, fun e => split_eq_error_iff, fun _ _ => .of_split, ?_⟩
  intro bag' hperm
  refine ⟨?_, ?_⟩
  · rw [exists_split_iff bag', exists_split_iff bag]
    exact forall_congr' fun _ => imp_congr_left hperm.mem_iff
  · intro options uniforms options' uniforms' h h'
    have hparted := Parted.of_split h
    have hparted' := Parted.of_split h'
    exact ⟨hparted.options_eq hperm hparted', hparted.uniforms_perm hperm hparted'⟩

end DrawPass.Params
