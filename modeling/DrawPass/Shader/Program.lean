/-
DrawPass/Shader/Program.lean

Linked programs and the setters of their uniforms, and the programs made so far.

A setter says where a value goes and as what.  Sampler uniforms are given the texture
units 0, 1, 2, … in the order in which the program reports them.  A program is known by
the snippets it was made from, and each of them is compiled at most once; what fails is
not remembered.
-/
import DrawPass.Error
import DrawPass.Shader.Assembler
import DrawPass.Shader.UniformKind

namespace DrawPass.Shader

open Gl Text

/-- Where the value of a uniform goes. -/
inductive Slot where
  /-- To a texture unit, for textures with a binding point. -/
  | sampler (unit target : UInt32)
  /-- To the uniform itself, which is of a kind. -/
  | value (kind : UniformKind)
  deriving DecidableEq

/-- The setter of one uniform. -/
structure Setter where
  name : String
  location : Location
  slot : Slot
  deriving DecidableEq

/-- A linked program with a setter for each uniform that it takes. -/
structure Program where
  name : Name
  setters : List Setter
  deriving DecidableEq

/-- Whether a character can stand in an identifier of the shading language. -/
def isIdentifierChar (c : Char) : Bool := c.isAlphanum || c == '_'

/-- The identifier at the head of a reported name, which for an array goes on. -/
def leadingIdentifier (name : String) : String :=
  String.ofList (name.toList.takeWhile isIdentifierChar)

namespace Program

/-- The names of the uniforms that a program takes. -/
def uniformNames (p : Program) : List String := p.setters.map Setter.name

/-- The texture unit of a sampler uniform. -/
def samplerUnit? (p : Program) (name : String) : Option UInt32 :=
  p.setters.findSome? fun s =>
    match s.slot with
    | .sampler unit _ => if s.name = name then some unit else none
    | .value _ => none

variable {σ : Type} [Device σ]

/-- Compile one stage. -/
def compile (stage : Stage) (source : String) : Attempt DrawError σ Name :=
  Attempt.create (fun log => .shaderCompile stage (String.ofList (numberLines source.toList)) log)
    (.compileShader stage source)

/-- Add the setter of a reported uniform, if its type is known and the program has a place for it.
`unit` is the number of units in use. -/
def addSetter (program : Name) (setters : List Setter) (unit : UInt32) (u : ActiveUniform) :
    StateM σ (List Setter × UInt32) := do
  let name := leadingIdentifier u.name
  match UniformKind.ofType? u.type with
  | none => return (setters, unit)
  | some kind =>
    match ← perform (.uniformLocation program name) with
    | none => return (setters, unit)
    | some location =>
      match kind with
      | .sampler target =>
        perform (.uniformInts location 1 [unit.toInt32])
        return (setters ++ [⟨name, location, .sampler unit target⟩], unit + 1)
      | kind => return (setters ++ [⟨name, location, .value kind⟩], unit)

/-- The setters of a program, which is in use while its samplers are given their units. -/
def introspect (program : Name) : StateM σ (List Setter) := do
  perform (.useProgram (some program))
  let reported ← perform (.activeUniforms program)
  let (setters, _) ← reported.foldlM (fun (setters, unit) u => addSetter program setters unit u)
    ([], 0)
  perform (.useProgram none)
  return setters

/-- Compile both stages and link them. -/
def link (sources : Sources) : Attempt DrawError σ Program := do
  let vertex ← compile .vertex sources.vertex
  let fragment ← compile .fragment sources.fragment
  let name ← Attempt.create .programLink (.linkProgram vertex fragment)
  return ⟨name, ← ExceptT.lift (introspect name)⟩

end Program

/-- The snippets that a program is made from. -/
structure ProgramKey where
  includes : List String
  vertex : String
  fragment : String
  deriving DecidableEq

/-- The programs made so far. -/
structure ProgramCache where
  programs : Table ProgramKey Program := .empty

namespace ProgramCache

variable {σ : Type} [Device σ]

/-- How many programs there are. -/
def size (c : ProgramCache) : Nat := c.programs.size

/-- The program of some snippets. It is linked from the sources that `build` gives, unless it has
been before. -/
def resolve (c : ProgramCache) (key : ProgramKey) (build : StateM σ Sources) :
    Attempt DrawError σ (Program × ProgramCache) := do
  match c.programs.get? key with
  | some program => return (program, c)
  | none =>
    let program ← Program.link (← ExceptT.lift build)
    return (program, ⟨c.programs.insert key program⟩)

/-- Delete every program. -/
def clear (c : ProgramCache) : StateM σ ProgramCache := do
  for program in c.programs.values do
    perform (.deleteProgram program.name)
  return {}

end ProgramCache

end DrawPass.Shader
