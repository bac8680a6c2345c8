/-
DrawPass/Proofs/VertexPlace.lean

Where the vertex main puts a vertex.

The place of a vertex on the mesh is computed in the shader, from the number of the vertex alone.
The statements that do this are a small language of integers: expressions and statements are syntax
trees here, with the text that they are written as and the values that they compute.  The text of
the vertex main is that of its statements (`vertexMain_eq`), so what they compute is what the shader
computes, as long as its integers are not cut off.

A vertex is counted by its row of the strip and by its steps in that row (`row_div_mod`).  Along a
row the strip goes up and down between two lines of the mesh (`vertexPlace_row`).
-/
import DrawPass.Shader.Template
import Mathlib.Tactic.Ring

namespace DrawPass.Shader

/-- Expressions over integers, as far as the vertex main uses them. -/
inductive IntExpr where
  | number (n : Nat)
  | name (x : String)
  | sum (a b : IntExpr)
  | difference (a b : IntExpr)
  | product (a b : IntExpr)
  | quotient (a b : IntExpr)
  | remainder (a b : IntExpr)
  | shifted (a : IntExpr) (n : Nat)
  | smaller (a b : IntExpr)

namespace IntExpr

/-- The value of an expression. Quotients are cut off towards zero. -/
def value (v : String → Int) : IntExpr → Int
  | number n => n
  | name x => v x
  | sum a b => a.value v + b.value v
  | difference a b => a.value v - b.value v
  | product a b => a.value v * b.value v
  | quotient a b => (a.value v).tdiv (b.value v)
  | remainder a b => (a.value v).tmod (b.value v)
  | shifted a n => a.value v >>> n
  | smaller a b => min (a.value v) (b.value v)

/-- Whether an expression stands in parentheses where a factor is wanted. -/
def isSum : IntExpr → Bool
  | sum .. | difference .. => true
  | _ => false

/-- A text where a factor is wanted. -/
def asFactor (isSum : Bool) (text : String) : String :=
  if isSum then "(" ++ text ++ ")" else text

/-- How an expression is written. -/
def text : IntExpr → String
  | number n => toString n
  | name x => x
  | sum a b => a.text ++ " + " ++ b.text
  | difference a b => a.text ++ " - " ++ b.text
  | product a b => asFactor a.isSum a.text ++ "*" ++ asFactor b.isSum b.text
  | quotient a b => asFactor a.isSum a.text ++ "/" ++ asFactor b.isSum b.text
  | remainder a b => asFactor a.isSum a.text ++ "%" ++ asFactor b.isSum b.text
  | shifted a n => asFactor a.isSum a.text ++ ">>" ++ toString n
  | smaller a b => "min(" ++ a.text ++ ", " ++ b.text ++ ")"

end IntExpr

/-- Statements that set integers. -/
inductive IntStatement where
  | declare (x : String) (e : IntExpr)
  | setIfZero (test x : String) (e : IntExpr)
  | setPair (x : String) (first second : IntExpr)

namespace IntStatement

/-- The values of names after one of them has been set. -/
def assign (v : String → Int) (x : String) (n : Int) : String → Int :=
  fun y => if y = x then n else v y

/-- The values of names after a statement. -/
def run (v : String → Int) : IntStatement → String → Int
  | declare x e => assign v x (e.value v)
  | setIfZero test x e => if v test = 0 then assign v x (e.value v) else v
  | setPair x first second =>
    assign (assign v (x ++ ".x") (first.value v)) (x ++ ".y") (second.value v)

/-- How a statement is written. -/
def text : IntStatement → String
  | declare x e => "int " ++ x ++ " = " ++ e.text ++ ";"
  | setIfZero test x e => "if (" ++ test ++ " == 0) " ++ x ++ " = " ++ e.text ++ ";"
  | setPair x first second => x ++ " = ivec2(" ++ first.text ++ ", " ++ second.text ++ ");"

end IntStatement

open IntExpr (number name sum difference product quotient remainder shifted smaller)
open IntStatement (declare setIfZero setPair assign)

/-- The statements of the vertex main that find the place of a vertex. -/
def placement : List IntStatement := [
  declare "rowVertN" (sum (product (name "Mesh.x") (number 2)) (number 3)),
  declare "rowI" (quotient (name "VertexID") (name "rowVertN")),
  declare "rowVertI" (smaller (remainder (name "VertexID") (name "rowVertN"))
    (difference (name "rowVertN") (number 2))),
  declare "odd" (remainder (name "rowI") (number 2)),
  setIfZero "odd" "rowVertI"
    (difference (difference (name "rowVertN") (name "rowVertI")) (number 2)),
  setPair "VID" (shifted (name "rowVertI") 1)
    (sum (name "rowI")
      (remainder (sum (sum (name "rowVertI") (name "odd")) (number 1)) (number 2)))]

/-- The text of the vertex main holds these statements, one on a line. -/
theorem vertexMain_eq : vertexMain = ofLines (
    ["void main() \x7b",
      "    // triangle-strip zigzag over a Mesh.x by Mesh.y grid, rows joined by degenerate triangles"] ++
    placement.map (fun s => "    " ++ s.text) ++
    ["    int ii = InstanceID;",
      "    ID.x = ii%Grid.x; ii /= Grid.x;",
      "    ID.y = ii%Grid.y; ii /= Grid.y;",
      "    ID.z = ii;",
      "    UV = vec2(VID)/vec2(Mesh);",
      "    VPos = vec4(XY, 0.0, 1.0);",
      "    vertex();",
      "    VPos.xy *= Aspect;",
      "\x7d"]) := by
  rfl

/-- The place of a vertex on a mesh of so many columns. -/
def vertexPlace (columns vertex : Nat) : Int × Int :=
  let v := placement.foldl IntStatement.run
    (assign (assign (fun _ => 0) "Mesh.x" columns) "VertexID" vertex)
  (v "VID.x", v "VID.y")

/-- The column at which a row of the strip is after some steps: rows are walked in turns from the
last column to the first and back. -/
def columnAt (columns row steps : Nat) : Nat := if row % 2 = 0 then columns - steps else steps

/-- What the statements compute, in one term. -/
theorem vertexPlace_eq (columns vertex : Nat) :
    let width : Int := columns * 2 + 3
    let row : Int := (vertex : Int).tdiv width
    let odd : Int := row.tmod 2
    let steps : Int := min ((vertex : Int).tmod width) (width - 2)
    let place : Int := if odd = 0 then width - steps - 2 else steps
    vertexPlace columns vertex = (place >>> (1 : Nat), row + (place + odd + 1).tmod 2) := by
  intro width row odd steps place
  by_cases heven : odd = 0
  · have hplace : place = width - steps - 2 := if_pos heven
    simp only [vertexPlace, placement, List.foldl_cons, List.foldl_nil, IntStatement.run]
    rw [hplace, if_pos (by exact heven)]
    rfl
  · have hplace : place = steps := if_neg heven
    simp only [vertexPlace, placement, List.foldl_cons, List.foldl_nil, IntStatement.run]
    rw [hplace, if_neg (by exact heven)]
    rfl

/-- A vertex belongs to one row only, and has its place there. -/
theorem row_div_mod {columns steps : Nat} (row : Nat) (hsteps : steps < 2 * columns + 3) :
    (row * (2 * columns + 3) + steps) / (2 * columns + 3) = row ∧
      (row * (2 * columns + 3) + steps) % (2 * columns + 3) = steps := by
  constructor
  · rw [Nat.mul_comm, Nat.mul_add_div (by omega), Nat.div_eq_of_lt hsteps, Nat.add_zero]
  · rw [Nat.mul_comm, Nat.mul_add_mod, Nat.mod_eq_of_lt hsteps]

/-- Along a row the strip goes up and down, one column further after each vertex above; the last
vertex of a row is there twice. -/
theorem vertexPlace_row {columns row steps : Nat} (hsteps : steps < 2 * columns + 3) :
    vertexPlace columns (row * (2 * columns + 3) + steps) =
      (((columnAt columns row (min steps (2 * columns + 1) / 2) : Nat) : Int),
        ((row + min steps (2 * columns + 1) % 2 : Nat) : Int)) := by
  have hwidth : (columns : Int) * 2 + 3 = (2 * columns + 3 : Nat) := by push_cast; ring
  obtain ⟨hrow, hrest⟩ := row_div_mod row hsteps
  rw [vertexPlace_eq]
  -- No number here is negative, so quotients and rests are those of the natural numbers.
  have hclamp : min (steps : Int) ((2 * columns + 3 : Nat) - 2) =
      (min steps (2 * columns + 1) : Nat) := by omega
  have hodd : (row : Int).tmod 2 = (row % 2 : Nat) := (Int.ofNat_tmod row 2).symm
  simp only [hwidth, ← Int.ofNat_tdiv, ← Int.ofNat_tmod, hrow, hrest, hclamp, hodd]
  obtain ⟨place, hplace⟩ : ∃ place, place = min steps (2 * columns + 1) := ⟨_, rfl⟩
  rw [← hplace]
  unfold columnAt
  rw [Prod.mk.injEq, Int.shiftRight_eq_div_pow, Int.tmod_eq_emod_of_nonneg (by split <;> omega)]
  split <;> split <;> omega

end DrawPass.Shader
