/-
DrawPass/Proofs/FixedParts.lean

What the fixed parts of every program declare.

The template declares the four uniforms that every draw sets; the headers, what stands in
front of the stages and the main functions declare nothing.  All of them are made of lines
that are `Quiet`, which can be read off one line at a time.
-/
import DrawPass.Config
import DrawPass.Proofs.Declared
import DrawPass.Shader.Assembler

namespace DrawPass

open Text Shader

namespace Uniform

variable {line : List Char}

/-- A line that opens no comment of several lines and does not mention the keyword. -/
structure Quiet (line : List Char) : Prop where
  oneLine : '\n' ∉ line
  opens : hasInfix ['/', '*'] line = false
  mentions : mentions (codeOf line ++ ['\n']) = false

instance (line : List Char) : Decidable (Quiet line) :=
  decidable_of_iff ('\n' ∉ line ∧ hasInfix ['/', '*'] line = false ∧
      mentions (codeOf line ++ ['\n']) = false)
    ⟨fun ⟨h, h', h''⟩ => ⟨h, h', h''⟩, fun ⟨h, h', h''⟩ => ⟨h, h', h''⟩⟩

theorem quiet_ofList (h : Quiet line) : Quiet (String.ofList line).toList := by
  rwa [String.toList_ofList]

theorem Declares.of_quiet (h : Quiet line) : Declares (line ++ ['\n']) [] :=
  .quiet h.oneLine h.opens h.mentions

/-- Two texts that declare nothing. -/
theorem Declares.silent {text text' : List Char} (h : Declares text []) (h' : Declares text' []) :
    Declares (text ++ text') [] := h.append h'

/-- A quiet line with its ending. -/
theorem Declares.ofList (hend : line.getLast? = some '\n') (h : Quiet line.dropLast) :
    Declares (String.ofList line).toList [] := by
  rw [String.toList_ofList, ← List.dropLast_append_getLast? '\n' hend]
  exact .of_quiet h

/-! ### Lines -/

theorem toList_ofLines_cons (line : String) (lines : List String) :
    (ofLines (line :: lines)).toList = line.toList ++ ['\n'] ++ (ofLines lines).toList := by
  unfold ofLines
  rw [List.map_cons, String.join_cons, String.toList_append, String.toList_append]
  rfl

theorem Declares.blank : Declares ['\n'] [] := .of_quiet (by decide : Quiet [])

/-- An empty line after a text. -/
theorem Declares.withBlank {text : List Char} {found : List Declaration}
    (h : Declares text found) : Declares (text ++ ['\n']) found := by
  have happend := h.append blank
  rwa [List.append_nil] at happend

theorem Declares.ofLines {lines : List String} (h : ∀ line ∈ lines, Quiet line.toList) :
    Declares (ofLines lines).toList [] := by
  induction lines with
  | nil => exact .nil
  | cons line lines ih =>
    obtain ⟨hline, hlines⟩ := List.forall_mem_cons.1 h
    rw [toList_ofLines_cons]
    exact (Declares.of_quiet hline).append (ih hlines)

/-- A declaration of one name, written out. -/
theorem Declares.ofWords {type name : List Char} (htype : Word type) (hname : Word name)
    (hline : line = keyword ++ (' ' :: (type ++ ' ' :: name) ++ [';'])) :
    Declares ((String.ofList line).toList ++ ['\n']) [⟨type, name⟩] := by
  rw [String.toList_ofList, hline, List.append_assoc, List.append_assoc]
  exact .uniform htype hname

/-! ### The parts -/

/-- The uniforms that every program has. -/
def builtins : List Declaration :=
  [⟨['i', 'v', 'e', 'c', '3'], ['G', 'r', 'i', 'd']⟩,
    ⟨['i', 'v', 'e', 'c', '2'], ['M', 'e', 's', 'h']⟩,
    ⟨['i', 'v', 'e', 'c', '4'], ['V', 'i', 'e', 'w']⟩,
    ⟨['v', 'e', 'c', '2'], ['A', 's', 'p', 'e', 'c', 't']⟩]

theorem declares_template : Declares template.toList builtins := by
  unfold template
  iterate 5 rw [toList_ofLines_cons]
  have grid : Declares ("uniform ivec3 Grid;".toList ++ ['\n']) [builtins[0]] :=
    .ofWords (by decide) (by decide) rfl
  have mesh : Declares ("uniform ivec2 Mesh;".toList ++ ['\n']) [builtins[1]] :=
    .ofWords (by decide) (by decide) rfl
  have view : Declares ("uniform ivec4 View;".toList ++ ['\n']) [builtins[2]] :=
    .ofWords (by decide) (by decide) rfl
  have aspect : Declares ("uniform vec2 Aspect;".toList ++ ['\n']) [builtins[3]] :=
    .ofWords (by decide) (by decide) rfl
  have viewSize : Declares ("#define ViewSize (View.zw)".toList ++ ['\n']) [] :=
    .of_quiet (quiet_ofList (by decide))
  refine grid.append (mesh.append (view.append (viewSize.append (aspect.append (.ofLines ?_)))))
  repeat' refine List.forall_mem_cons.2 ⟨quiet_ofList (by decide +kernel), ?_⟩
  exact List.forall_mem_nil _

/-- What stands in front of a stage. -/
def front : Gl.Stage → String
  | .vertex => vertexHeader
  | .fragment => fragmentHeader

theorem declares_front (stage : Gl.Stage) : Declares (front stage).toList [] := by
  cases stage <;>
    refine .ofLines ?_ <;>
    repeat' refine List.forall_mem_cons.2 ⟨quiet_ofList (by decide +kernel), ?_⟩
  all_goals exact List.forall_mem_nil _

/-- The main function of a stage. -/
def main : Gl.Stage → String
  | .vertex => vertexMain
  | .fragment => fragmentMain

theorem declares_main (stage : Gl.Stage) : Declares (main stage).toList [] := by
  cases stage <;>
    refine .ofLines ?_ <;>
    repeat' refine List.forall_mem_cons.2 ⟨quiet_ofList (by decide +kernel), ?_⟩
  all_goals exact List.forall_mem_nil _

theorem declares_embeddedHeader : Declares (embeddedHeader.toList ++ ['\n']) [] := by
  unfold embeddedHeader
  iterate 7 rw [String.toList_append]
  rw [List.append_assoc]
  refine Declares.silent ?_ (.of_quiet (quiet_ofList (by decide +kernel)))
  repeat' refine Declares.silent ?_ (.ofList rfl (by decide +kernel))
  exact .ofList rfl (by decide +kernel)

theorem declares_desktopHeader : Declares (desktopHeader.toList ++ ['\n']) [] :=
  .of_quiet (quiet_ofList (by decide +kernel))

end Uniform

end DrawPass
