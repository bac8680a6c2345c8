/-
DrawPass/Params/Options.lean

The options of a draw, read from its bag.

`split` parts a bag into options and uniforms.  Entries are read in order, each by
itself (`readOption`), and the first one that is not valid is the error.  Nothing is
asked of a device here.
-/
import DrawPass.Error

namespace DrawPass.Params

open Gl (Rect)

/-- How the aspect of a view is measured: which length spans two units. -/
inductive Aspect where
  /-- The shorter side. -/
  | fit
  /-- The longer side. -/
  | cover
  /-- The width. -/
  | x
  /-- The height. -/
  | y
  /-- The mean of both sides. -/
  | mean
  deriving DecidableEq

namespace Aspect

/-- The name of a mode. -/
def name : Aspect → String
  | fit => "fit"
  | cover => "cover"
  | x => "x"
  | y => "y"
  | mean => "mean"

/-- The mode of a name. -/
def parse (s : String) : Except DrawError Aspect :=
  match [fit, cover, x, y, mean].find? fun a => a.name == s with
  | some a => .ok a
  | none => .error (.unknownAspect s)

/-- The reference length over both sides. -/
def scale (a : Aspect) (width height : Single) : Single × Single :=
  let c :=
    match a with
    | fit => width.min height
    | cover => width.max height
    | x => width
    | y => height
    | mean => (width + height) / .two
  (c / width, c / height)

end Aspect

/-- The scale of a view under an optional mode; without one nothing is scaled. -/
def aspectScale (aspect : Option Aspect) (width height : Single) : Single × Single :=
  match aspect with
  | some a => a.scale width height
  | none => (.one, .one)

/-- Whether depth is tested and written. -/
inductive DepthTest where
  | off
  | on
  /-- Tested but not written. -/
  | keep
  deriving DecidableEq

/-- The name of a depth test. -/
def DepthTest.name : DepthTest → String
  | off => "off"
  | on => "on"
  | keep => "keep"

/-- Whether depth is tested. -/
def DepthTest.enabled (d : DepthTest) : Bool := d != .off

/-- Whether depth is written. -/
def DepthTest.writes (d : DepthTest) : Bool := d != .keep

/-- Which faces are drawn. -/
inductive Face where
  | front
  | back
  deriving DecidableEq

/-- The name of a face. -/
def Face.name : Face → String
  | front => "front"
  | back => "back"

/-- The faces that are left out. -/
def Face.culled : Face → UInt32
  | front => Gl.Constant.back
  | back => Gl.Constant.front

/-- The options of one draw. -/
structure Options where
  includes : List String := []
  vertex : String := ""
  fragment : String := ""
  clear : Option Color := none
  blend : Option String := none
  view : Option Rect := none
  grid : UInt32 × UInt32 × UInt32 := (1, 1, 1)
  mesh : UInt32 × UInt32 := (1, 1)
  aspect : Option Aspect := none
  depthTest : DepthTest := .off
  alphaCoverage : Bool := false
  face : Option Face := none
  deriving DecidableEq

namespace Options

/-- Whether a snippet was given for a stage. -/
def hasStages (o : Options) : Bool := !o.vertex.isEmpty || !o.fragment.isEmpty

/-- Whether there is nothing to do but to prepare the target. -/
def isNoop (o : Options) : Bool := o.clear.isNone && !o.hasStages

/-- The view, or the whole target. -/
def viewRect (o : Options) (width height : UInt32) : Rect :=
  o.view.getD ⟨0, 0, width.toInt32, height.toInt32⟩

end Options

/-- A value, or the error that an option expects another one. -/
def expect {α : Type} (name : OptionName) (expected : String) : Option α → Except DrawError α
  | some a => .ok a
  | none => .error (.invalidOption name expected)

/-- A number as a count: its integer part, and zero for what is negative or no number. -/
def countOf (x : Single) : UInt32 := (x.max .zero).toUInt32

/-- The options after one more reserved entry. -/
def readOption (o : Options) (name : OptionName) (value : ParamValue) :
    Except DrawError Options :=
  match name with
  | .inc =>
    match value with
    | .text s => .ok { o with includes := [s] }
    | .texts ss => .ok { o with includes := ss }
    | .uniform _ => .error (.invalidOption name "text or a list of text")
  | .vp => do return { o with vertex := ← expect name "shader text" value.text? }
  | .fp => do return { o with fragment := ← expect name "shader text" value.text? }
  | .clear => do
    let color ← expect name "a number or 4 numbers" <|
      match value.numbers? with
      | some [c] => some (Color.uniform c)
      | some [r, g, b, a] => some (Color.rgba r g b a)
      | _ => none
    return { o with clear := some color }
  | .blend => do return { o with blend := some (← expect name "a blend spec" value.text?) }
  | .view => do
    let rect ← expect name "2 or 4 numbers" <|
      match value.numbers? with
      | some [w, h] => some ⟨0, 0, w.toInt32, h.toInt32⟩
      | some [x, y, w, h] => some ⟨x.toInt32, y.toInt32, w.toInt32, h.toInt32⟩
      | _ => none
    return { o with view := some rect }
  | .grid => do
    let grid ← expect name "1 to 3 counts" <|
      match value.numbers? with
      | some [x] => some (countOf x, 1, 1)
      | some [x, y] => some (countOf x, countOf y, 1)
      | some [x, y, z] => some (countOf x, countOf y, countOf z)
      | _ => none
    return { o with grid := grid }
  | .mesh => do
    let mesh ← expect name "2 counts" <|
      match value.numbers? with
      | some [x, y] => some (countOf x, countOf y)
      | _ => none
    return { o with mesh := mesh }
  | .aspect => do
    let mode ← expect name "fit, cover, x, y or mean" value.text?
    return { o with aspect := some (← Aspect.parse mode) }
  | .depthTest =>
    if value = .text "keep" then .ok { o with depthTest := .keep }
    else do
      let x ← expect name "a bool, 0/1 or \"keep\"" value.scalar?
      return { o with depthTest := if x.isNonzero then .on else .off }
  | .alphaCoverage => do
    let x ← expect name "a bool or 0/1" value.scalar?
    return { o with alphaCoverage := x.isNonzero }
  | .face => do
    let face ← expect name "\"front\" or \"back\"" <|
      match value.text? with
      | some "front" => some Face.front
      | some "back" => some Face.back
      | _ => none
    return { o with face := some face }

/-- Options and uniforms after one more entry of a bag. -/
def readEntry (read : Options × Uniform.Values) (name : String) (value : ParamValue) :
    Except DrawError (Options × Uniform.Values) :=
  match OptionName.ofKey? name with
  | some option => (readOption read.1 option value).map fun o => (o, read.2)
  | none =>
    match value with
    | .uniform v => .ok (read.1, read.2.insert name v)
    | _ => .error (.invalidUniform name "text is only accepted for reserved options")

/-- Part a bag into options and uniforms. -/
def split (bag : Bag) : Except DrawError (Options × Uniform.Values) :=
  bag.entries.foldlM (fun read entry => readEntry read entry.1 entry.2) ({}, .empty)

end DrawPass.Params
