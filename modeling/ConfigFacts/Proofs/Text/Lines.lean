import ConfigFacts.Text.Lines
import Mathlib.Data.List.Basic

/-!
# Cutting into lines

A text falls into pieces at a mark, one after the other (`Text.splitOn_append_cons`). Its lines are
the pieces at its line feeds without a carriage return at their ends, and what is left behind the
last line feed (`Text.cutInto_iff`). Behind a text whose lines are all ended a new line starts
(`Text.lines_append`), and lines that are written with a line feed behind each are read again, apart
from carriage returns at their ends (`Text.lines_flatMap`).
-/

namespace ConfigFacts.Text

/-- How a text falls into lines: a line feed ends a line, alone or behind a carriage return, and
what follows the last one is a line if there is anything. -/
inductive CutInto : List Char → List (List Char) → Prop where
  | nil : CutInto [] []
  | rest {line : List Char} (single : '\n' ∉ line) (filled : line ≠ []) : CutInto line [line]
  | feed {line s : List Char} {lines : List (List Char)} (single : '\n' ∉ line)
    (bare : line.getLast? ≠ some '\r') (behind : CutInto s lines) :
    CutInto (line ++ '\n' :: s) (line :: lines)
  | returnFeed {line s : List Char} {lines : List (List Char)} (single : '\n' ∉ line)
    (behind : CutInto s lines) : CutInto (line ++ '\r' :: '\n' :: s) (line :: lines)

variable {mark : Char} {piece line : List Char}

/-- A piece without marks ends at the first mark. -/
theorem splitOn_append_cons (absent : mark ∉ piece) (rest : List Char) :
    (piece ++ mark :: rest).splitOn mark = piece :: rest.splitOn mark := by
  refine List.splitOnP_append_cons_of_forall_mem (p := (· == mark)) (fun c member => ?_) mark
    (beq_self_eq_true mark) rest
  exact beq_false_of_ne fun same => absent (same ▸ member)

/-- A text falls into one piece more than it has marks. -/
theorem length_splitOn (mark : Char) (s : List Char) :
    (s.splitOn mark).length = s.count mark + 1 := by
  by_cases member : mark ∈ s
  · obtain ⟨piece, rest, rfl, absent⟩ := List.eq_append_cons_of_mem member
    have shorter : rest.length < (piece ++ mark :: rest).length := by simp; omega
    rw [splitOn_append_cons absent, List.length_cons, length_splitOn mark rest, List.count_append,
      List.count_cons_self, List.count_eq_zero.2 absent, Nat.zero_add]
  · rw [List.splitOn_eq_singleton member, List.count_eq_zero.2 member]
    rfl
termination_by s.length

private theorem lines_of_notMem (single : '\n' ∉ line) :
    lines line = if line = [] then [] else [line] := by
  unfold lines
  rw [List.splitOn_eq_singleton single]
  cases line <;> rfl

/-- The first line ends at the first line feed. -/
theorem lines_append_cons (single : '\n' ∉ line) (rest : List Char) :
    lines (line ++ '\n' :: rest) = dropReturn line :: lines rest := by
  unfold lines
  rw [splitOn_append_cons single]
  cases pieces : rest.splitOn '\n' with
  | nil => exact absurd pieces (List.splitOn_ne_nil _ _)
  | cons piece pieces => rfl

/-- The carriage return that ends a line is dropped. -/
theorem dropReturn_append_return (line : List Char) : dropReturn (line ++ ['\r']) = line := by
  unfold dropReturn
  rw [List.getLast?_concat, if_pos rfl, List.dropLast_concat]

/-- A line that does not end with a carriage return is not changed. -/
theorem dropReturn_of_bare (bare : line.getLast? ≠ some '\r') : dropReturn line = line :=
  if_neg bare

/-- A text is cut into its lines. -/
theorem cutInto_lines (s : List Char) : CutInto s (lines s) := by
  by_cases feed : '\n' ∈ s
  · obtain ⟨line, rest, rfl, single⟩ := List.eq_append_cons_of_mem feed
    have shorter : rest.length < (line ++ '\n' :: rest).length := by simp; omega
    have behind := cutInto_lines rest
    rw [lines_append_cons single]
    by_cases ended : line.getLast? = some '\r'
    · obtain ⟨front, rfl⟩ := List.getLast?_eq_some_iff.1 ended
      rw [dropReturn_append_return, List.append_assoc]
      exact .returnFeed (fun member => single (List.mem_append_left _ member)) behind
    · rw [dropReturn_of_bare ended]
      exact .feed single ended behind
  · rw [lines_of_notMem feed]
    by_cases empty : s = []
    · subst empty
      exact .nil
    · rw [if_neg empty]
      exact .rest feed empty
termination_by s.length

/-- A text falls into its lines and in no other way. -/
theorem cutInto_iff {s : List Char} {ls : List (List Char)} : CutInto s ls ↔ lines s = ls := by
  constructor
  · intro cut
    induction cut with
    | nil => rfl
    | rest single filled => rw [lines_of_notMem single, if_neg filled]
    | feed single bare _ ih => rw [lines_append_cons single, dropReturn_of_bare bare, ih]
    | @returnFeed line s lines single _ ih =>
        have single' : '\n' ∉ line ++ ['\r'] := by simpa using single
        have front := lines_append_cons single' s
        rwa [List.append_assoc, dropReturn_append_return, ih] at front
  · rintro rfl
    exact cutInto_lines s

/-- A line holds no line feed. -/
theorem CutInto.notMem {s : List Char} {ls : List (List Char)} (cut : CutInto s ls) :
    ∀ line ∈ ls, '\n' ∉ line := by
  induction cut with
  | nil => exact List.forall_mem_nil _
  | rest single _ => exact List.forall_mem_singleton.2 single
  | feed single _ _ ih | returnFeed single _ ih => exact List.forall_mem_cons.2 ⟨single, ih⟩

/-! ### Texts whose lines are ended -/

/-- All lines of a text are ended. -/
def Terminated (s : List Char) : Prop :=
  ∀ c ∈ s.getLast?, c = '\n'

/-- Terminated texts behind each other are terminated. -/
theorem Terminated.append {s t : List Char} (left : Terminated s) (right : Terminated t) :
    Terminated (s ++ t) := by
  intro c last
  rw [List.getLast?_append] at last
  rcases Option.or_eq_some_iff.1 last with back | ⟨_, front⟩
  · exact right c back
  · exact left c front

/-- Lines that each end with a line feed are a terminated text. -/
theorem terminated_flatMap (ls : List (List Char)) :
    Terminated (ls.flatMap fun line => line ++ ['\n']) := by
  induction ls with
  | nil => exact nofun
  | cons line ls ih =>
      refine Terminated.append (fun c last => ?_) ih
      rw [List.getLast?_concat] at last
      exact (Option.some.inj last).symm

/-- Behind ended lines a new line starts. -/
theorem lines_append {s : List Char} (ended : Terminated s) (t : List Char) :
    lines (s ++ t) = lines s ++ lines t := by
  by_cases feed : '\n' ∈ s
  · obtain ⟨line, rest, rfl, single⟩ := List.eq_append_cons_of_mem feed
    have shorter : rest.length < (line ++ '\n' :: rest).length := by simp; omega
    have behind : Terminated rest := fun c last => ended c (by
      rw [List.getLast?_append, List.getLast?_cons, last]
      rfl)
    rw [List.append_assoc, List.cons_append, lines_append_cons single, lines_append_cons single,
      lines_append behind t, List.cons_append]
  · cases last : s.getLast? with
    | none =>
        rw [List.getLast?_eq_none_iff.1 last]
        rfl
    | some c => exact absurd (ended c last ▸ List.mem_of_getLast? last) feed
termination_by s.length

/-- Written lines are read again without the carriage returns at their ends. -/
theorem lines_flatMap {ls : List (List Char)} (single : ∀ line ∈ ls, '\n' ∉ line) :
    lines (ls.flatMap fun line => line ++ ['\n']) = ls.map dropReturn := by
  induction ls with
  | nil => rfl
  | cons line ls ih =>
      obtain ⟨first, later⟩ := List.forall_mem_cons.1 single
      rw [List.flatMap_cons, List.append_assoc, List.singleton_append, lines_append_cons first,
        ih later, List.map_cons]

end ConfigFacts.Text
