/-
DrawPass/Blend/State.lean

Blend equations: a weight for the source colour, a weight for the destination colour
and an operation that combines the two.
-/
import DrawPass.Gl.Command

namespace DrawPass.Blend

open Gl

/-- The weight of one side of a blend equation. -/
inductive Factor where
  | zero
  | one
  | srcColor
  | oneMinusSrcColor
  | dstColor
  | oneMinusDstColor
  | srcAlpha
  | oneMinusSrcAlpha
  | dstAlpha
  | oneMinusDstAlpha
  | constantColor
  | oneMinusConstantColor
  | constantAlpha
  | oneMinusConstantAlpha
  deriving DecidableEq

namespace Factor

/-- The token by which a blend spec names a factor. -/
def token : Factor → List Char
  | zero => ['0']
  | one => ['1']
  | srcColor => ['s']
  | oneMinusSrcColor => "(1-s)".toList
  | dstColor => ['d']
  | oneMinusDstColor => "(1-d)".toList
  | srcAlpha => ['s', 'a']
  | oneMinusSrcAlpha => "(1-sa)".toList
  | dstAlpha => ['d', 'a']
  | oneMinusDstAlpha => "(1-da)".toList
  | constantColor => ['c']
  | oneMinusConstantColor => "(1-c)".toList
  | constantAlpha => ['c', 'a']
  | oneMinusConstantAlpha => "(1-ca)".toList

/-- Every factor. -/
def all : List Factor :=
  [zero, one, srcColor, oneMinusSrcColor, dstColor, oneMinusDstColor, srcAlpha,
    oneMinusSrcAlpha, dstAlpha, oneMinusDstAlpha, constantColor, oneMinusConstantColor,
    constantAlpha, oneMinusConstantAlpha]

/-- The factor of a token. -/
def ofToken? (t : List Char) : Option Factor := all.find? fun f => f.token == t

/-- The constant of a factor. -/
def constant : Factor → UInt32
  | zero => Constant.zero
  | one => Constant.one
  | srcColor => Constant.srcColor
  | oneMinusSrcColor => Constant.oneMinusSrcColor
  | dstColor => Constant.dstColor
  | oneMinusDstColor => Constant.oneMinusDstColor
  | srcAlpha => Constant.srcAlpha
  | oneMinusSrcAlpha => Constant.oneMinusSrcAlpha
  | dstAlpha => Constant.dstAlpha
  | oneMinusDstAlpha => Constant.oneMinusDstAlpha
  | constantColor => Constant.constantColor
  | oneMinusConstantColor => Constant.oneMinusConstantColor
  | constantAlpha => Constant.constantAlpha
  | oneMinusConstantAlpha => Constant.oneMinusConstantAlpha

end Factor

/-- How the weighted source and destination are combined. -/
inductive Op where
  | add
  | subtract
  | reverseSubtract
  | min
  | max
  deriving DecidableEq

/-- The constant of an operation. -/
def Op.constant : Op → UInt32
  | add => Constant.funcAdd
  | subtract => Constant.funcSubtract
  | reverseSubtract => Constant.funcReverseSubtract
  | min => Constant.min
  | max => Constant.max

/-- A blend equation. -/
structure State where
  src : Factor
  dst : Factor
  op : Op
  deriving DecidableEq

/-- Set the blend function and equation of a device. Blending itself is switched elsewhere. -/
def State.apply {σ : Type} [Device σ] (s : State) : StateM σ Unit := do
  perform (.blendFunc s.src.constant s.dst.constant)
  perform (.blendEquation s.op.constant)

end DrawPass.Blend
