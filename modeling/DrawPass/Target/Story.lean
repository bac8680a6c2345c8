/-
DrawPass/Target/Story.lean

Stories: targets of one tag that take turns.

The slots of a story stand in order of age, the current state first.  A draw into a
story goes to the oldest slot, which then becomes the current one, while the shader
reads what was current before.
-/
import DrawPass.Sampling.Sampler

namespace DrawPass

/-- The handle of a story. -/
structure StoryKey where
  index : Nat
  deriving DecidableEq

/-- The slots of a story, by the keys of their targets; there is at least one. -/
structure Story where
  /-- The state written last. -/
  current : TargetKey
  /-- The earlier states, the latest first. -/
  earlier : List TargetKey
  deriving DecidableEq

namespace Story

/-- All slots, the current one first. -/
def slots (s : Story) : List TargetKey := s.current :: s.earlier

/-- How many slots there are. -/
def size (s : Story) : Nat := s.slots.length

/-- The slot that the next draw goes to: the oldest one. -/
def writeSlot (s : Story) : TargetKey := s.earlier.getLastD s.current

/-- The story after its oldest slot has become the current one. -/
def rotate (s : Story) : Story :=
  match s.earlier with
  | [] => s
  | e :: es => ⟨(e :: es).getLast (by simp), s.current :: (e :: es).dropLast⟩

theorem length_slots (s : Story) : s.slots.length = s.earlier.length + 1 := rfl

/-- The slot that a draw goes to is the current one afterwards. -/
theorem current_rotate (s : Story) : s.rotate.current = s.writeSlot := by
  unfold rotate writeSlot
  split <;> simp_all [List.getLastD_eq_getLast?, List.getLast?_eq_some_getLast]

/-- Rotating puts the last slot in front. -/
theorem slots_rotate (s : Story) : s.rotate.slots = s.writeSlot :: s.slots.dropLast := by
  unfold rotate writeSlot slots
  split <;> simp_all [List.getLastD_eq_getLast?, List.getLast?_eq_some_getLast]

/-- The slot that a draw goes to is the last one. -/
theorem slots_eq (s : Story) : s.slots.dropLast ++ [s.writeSlot] = s.slots := by
  obtain ⟨current, earlier⟩ := s
  have hlast : (⟨current, earlier⟩ : Story).writeSlot =
      (current :: earlier).getLast (List.cons_ne_nil _ _) := by
    rw [List.getLast_eq_getLastD]
    rfl
  rw [hlast]
  exact List.dropLast_concat_getLast _

/-- Rotating keeps the slots. -/
theorem rotate_perm (s : Story) : s.rotate.slots.Perm s.slots := by
  have h : ([s.writeSlot] ++ s.slots.dropLast).Perm (s.slots.dropLast ++ [s.writeSlot]) :=
    List.perm_append_comm
  rw [slots_eq] at h
  rwa [slots_rotate]

end Story

end DrawPass
