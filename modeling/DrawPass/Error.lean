/-
DrawPass/Error.lean

Why a draw or a read is refused, the words for it, and actions that may be refused.

A refused action keeps what it has done to its state up to the refusal; which actions
leave nothing behind is a fact about each of them.
-/
import DrawPass.Blend.Spec
import DrawPass.Params.Bag
import DrawPass.Pixel.Format
import DrawPass.Sampling.Mode

namespace DrawPass

/-- Why a draw is refused. -/
inductive DrawError where
  /-- A blend spec that cannot be read. -/
  | invalidBlend (cause : Blend.SpecError)
  | unknownAspect (mode : String)
  | unknownFormat (name : String)
  | unknownSampling (name : String)
  /-- An option whose value is not of the expected kind. -/
  | invalidOption (name : Params.OptionName) (expected : String)
  /-- A uniform with a value that no uniform can have. -/
  | invalidUniform (name reason : String)
  /-- A target without a tag. -/
  | missingTag
  /-- Data that does not fill a target exactly. -/
  | dataSizeMismatch (tag : String) (expected actual : Nat)
  /-- A target that has been freed. -/
  | freedTarget (tag : String)
  /-- A stage that does not compile, with its numbered source and the driver's log. -/
  | shaderCompile (stage : Gl.Stage) (listing log : String)
  | programLink (log : String)
  /-- An object that the device could not make. -/
  | gl (cause : String)
  deriving DecidableEq

/-- The kind of a refusal in one word. -/
def DrawError.kind : DrawError → String
  | invalidBlend _ => "InvalidBlend"
  | unknownAspect _ => "UnknownAspect"
  | unknownFormat _ => "UnknownFormat"
  | unknownSampling _ => "UnknownSampling"
  | invalidOption .. => "InvalidOption"
  | invalidUniform .. => "InvalidUniform"
  | missingTag => "MissingTag"
  | dataSizeMismatch .. => "DataSizeMismatch"
  | freedTarget _ => "FreedTarget"
  | shaderCompile .. => "ShaderCompile"
  | programLink _ => "ProgramLink"
  | gl _ => "Gl"

/-- The message of a refused draw. -/
def DrawError.message : DrawError → String
  | invalidBlend cause => cause.message
  | unknownAspect mode => "Unknown aspect mode \"" ++ mode ++ "\""
  | unknownFormat name => UnknownFormat.message ⟨name⟩
  | unknownSampling name => Sampling.UnknownMode.message ⟨name⟩
  | invalidOption name expected => "Option " ++ name.key ++ " expects " ++ expected
  | invalidUniform name reason => "Invalid uniform " ++ name ++ ": " ++ reason
  | missingTag => "Target spec requires a tag"
  | dataSizeMismatch tag expected actual =>
    "Data for target \"" ++ tag ++ "\" has " ++ toString actual ++ " bytes, expected " ++
      toString expected
  | freedTarget tag => "Target \"" ++ tag ++ "\" has been freed"
  | shaderCompile _ listing log => listing ++ "\n--- GLSL COMPILE ERROR ---\n" ++ log
  | programLink log => "Program link failed: " ++ log
  | gl cause => "GL error: " ++ cause

/-- Why a read is refused. -/
inductive ReadError where
  /-- A region outside the target, or a destination that cannot take it. -/
  | invalidRegion
  | freed
  /-- An object that the device could not make. -/
  | gl (cause : String)
  deriving DecidableEq

/-- The kind of a refusal in one word. -/
def ReadError.kind : ReadError → String
  | invalidRegion => "InvalidRegion"
  | freed => "Freed"
  | gl _ => "Gl"

/-- The message of a refused read. -/
def ReadError.message : ReadError → String
  | invalidRegion => "Invalid readback region"
  | freed => "Target has been freed"
  | gl cause => "GL error during readback: " ++ cause

/-- An action on a state that may be refused. -/
abbrev Attempt (ε σ α : Type) := ExceptT ε (StateM σ) α

namespace Attempt

variable {ε σ : Type} [Gl.Device σ]

/-- Have an object made; the device's refusal becomes the action's. -/
def create (refusal : String → ε) (command : Gl.Command (Except String Gl.Name)) :
    Attempt ε σ Gl.Name :=
  ExceptT.mk do
    match ← Gl.perform command with
    | .ok name => return .ok name
    | .error cause => return .error (refusal cause)

/-- Carry out a command, which is never refused. -/
def perform {α : Type} (command : Gl.Command α) : Attempt ε σ α := ExceptT.lift (Gl.perform command)

end Attempt

end DrawPass
