/-
DrawPass/Uniform/Declaration.lean

Declarations of uniforms in shader text: which names a text declares, and the
declarations that the values of a draw call for.

`declarations` is the scanner.  It skips comments and takes every name between the
type and the semicolon, so `uniform vec2 a, b[4];` declares `a`, `b` and `4`.
`infer` writes one declaration for each value whose name is a word that the text
does not declare and whose shape has a type.
-/
import DrawPass.Shader.Comment
import DrawPass.Text.Line
import DrawPass.Uniform.Value

namespace DrawPass.Uniform

open Text

/-! ### Scanning -/

/-- The word that begins a declaration. -/
def keyword : List Char := ['u', 'n', 'i', 'f', 'o', 'r', 'm']

/-- The type of a declaration and the text of its names, up to but without the semicolon. -/
structure Declaration where
  type : List Char
  names : List Char
  deriving DecidableEq

/-- What stands between the keyword and the semicolon: blanks, a type, blanks, and at least one
more character. All blanks but, if need be, the last belong to the separation. -/
def Declaration.ofBody? (body : List Char) : Option Declaration :=
  if body.head?.any isBlank then
    let fromType := body.dropWhile isBlank
    let type := fromType.takeWhile isWord
    let fromBlanks := fromType.dropWhile isWord
    if type.isEmpty || !fromBlanks.head?.any isBlank then none
    else
      match fromBlanks.dropWhile isBlank, fromBlanks with
      | [], _ :: c :: cs => some ⟨type, [(c :: cs).getLast (by simp)]⟩
      | [], _ => none
      | names, _ => some ⟨type, names⟩
  else none

/-- A declaration at the head of a text. With `wholeWord`, the keyword must begin a word. -/
def declaration (wholeWord : Bool) : Pattern Declaration := fun before text =>
  if wholeWord && !atWordStart before then none
  else
    match h : afterKeyword keyword text with
    | some afterWord =>
      match hr : afterWord.dropWhile (· != ';') with
      | _ :: rest =>
        (Declaration.ofBody? (afterWord.takeWhile (· != ';'))).map fun d => (d, ⟨rest, by
          have h₁ := length_afterKeyword h
          have h₂ := length_dropWhile_le (· != ';') afterWord
          rw [hr] at h₂
          simp only [List.length_cons] at h₂
          omega⟩)
      | [] => none
    | none => none

/-- The maximal runs of word characters; `current` holds, in reverse, the run being read. -/
def wordsFrom (current : List Char) : List Char → List (List Char)
  | [] => if current.isEmpty then [] else [current.reverse]
  | c :: cs =>
    if isWord c then wordsFrom (c :: current) cs
    else if current.isEmpty then wordsFrom [] cs
    else current.reverse :: wordsFrom [] cs

/-- The words of a text. -/
def words (text : List Char) : List (List Char) := wordsFrom [] text

/-- The names that a text declares, in the order of their first mention. -/
def declaredNames (code : List Char) : List (List Char) :=
  (((declaration false).findAll (Shader.stripComments code)).flatMap fun d =>
    words d.names).eraseDups

/-! ### Inference -/

/-- What decides the declaration of a value. -/
inductive Shape where
  | sampler (layered : Bool) (samplerPrefix : String)
  | number
  | integer
  | boolean
  | fixedVector (n : Nat)
  | intVector (n : Nat)
  deriving DecidableEq

/-- The shape of a value. -/
def Value.shape : Value → Shape
  | .float _ => .number
  | .int _ => .integer
  | .bool _ => .boolean
  | .vector xs => .fixedVector xs.length
  | .intVector ns => .intVector ns.length
  | .sampler s => .sampler s.texture.layered s.texture.format.samplerPrefix

/-- The declaration of a sampler with its helpers: reading under the sampler's own name, the size
and the step between texels. -/
def samplerDeclaration (name : String) (layered : Bool) (samplerPrefix : String) : String :=
  let (sampler, dimension, args, call) :=
    if layered then ("sampler2DArray", "3", "p,l", "(p),(l)") else ("sampler2D", "2", "p", "(p)")
  "uniform " ++ samplerPrefix ++ sampler ++ " " ++ name ++ ";\n" ++
    "#define " ++ name ++ "(" ++ args ++ ") (_sample(" ++ name ++ ", " ++ call ++ "))\n" ++
    "ivec" ++ dimension ++ " " ++ name ++ "_size() \x7b return textureSize(" ++ name ++
      ", 0); \x7d\n" ++
    "vec" ++ dimension ++ " " ++ name ++ "_step() \x7b return 1.0/vec" ++ dimension ++ "(" ++
      name ++ "_size()); \x7d"

/-- The type name of a shape that is not a sampler, if the shading language has one. -/
def Shape.typeName? : Shape → Option String
  | .sampler .. => none
  | .number => some "float"
  | .integer => some "int"
  | .boolean => some "bool"
  | .fixedVector 1 => some "float"
  | .fixedVector 2 => some "vec2"
  | .fixedVector 3 => some "vec3"
  | .fixedVector 4 => some "vec4"
  | .fixedVector 9 => some "mat3"
  | .fixedVector 16 => some "mat4"
  | .fixedVector _ => none
  | .intVector 1 => some "int"
  | .intVector 2 => some "ivec2"
  | .intVector 3 => some "ivec3"
  | .intVector 4 => some "ivec4"
  | .intVector _ => none

/-- The declaration of a uniform of a shape. -/
def Shape.declaration? (name : String) : Shape → Option String
  | .sampler layered samplerPrefix => some (samplerDeclaration name layered samplerPrefix)
  | shape => shape.typeName?.map fun type => "uniform " ++ type ++ " " ++ name ++ ";"

/-- Whether a name is a run of word characters. -/
def isIdentifier (name : String) : Bool := !name.isEmpty && name.toList.all isWord

/-- The declarations of the values that a text does not declare, one after another by lines. -/
def infer (values : Values) (code : List Char) : List Char :=
  let declared := declaredNames code
  joinWith ['\n'] <| values.entries.filterMap fun (name, value) =>
    if isIdentifier name && !declared.contains name.toList then
      (value.shape.declaration? name).map String.toList
    else none

end DrawPass.Uniform
