import ConfigFacts.Text.Blank
import Mathlib.Data.List.Basic
import Mathlib.Data.List.DropRight

/-!
# Cutting off blanks

Cutting the blanks off both ends of a text leaves its longest part that neither starts nor ends with
a blank (`Text.trimsTo_iff`). Blanks around a text do not show afterwards (`Text.trim_surround`),
and each end can be cut on its own when something other than a blank stands between them
(`Text.trim_append_cons`).
-/

namespace ConfigFacts.Text

/-- A text of blanks only. -/
def AllBlank (s : List Char) : Prop :=
  ∀ c ∈ s, isBlank c = true

/-- A text with the blanks around it and what is left without them: something that neither starts
nor ends with a blank. -/
structure TrimsTo (s t : List Char) : Prop where
  surrounded : ∃ front back, s = front ++ t ++ back ∧ AllBlank front ∧ AllBlank back
  first : ∀ c ∈ t.head?, isBlank c = false
  last : ∀ c ∈ t.getLast?, isBlank c = false

variable {s t : List Char} {c : Char}

private theorem trimEnd_eq_rdropWhile (s : List Char) : trimEnd s = s.rdropWhile isBlank := rfl

/-- Of blanks nothing is left. -/
theorem trim_eq_nil_iff : trim s = [] ↔ AllBlank s := by
  rw [trim, trimEnd_eq_rdropWhile, List.rdropWhile_eq_nil_iff]
  constructor
  · intro rest
    -- The first character that is left after cutting the start is no blank.
    have start : trimStart s = [] := by
      by_contra some
      have nonempty := List.length_pos_of_ne_nil some
      exact List.dropWhile_get_zero_not isBlank s nonempty (rest _ (List.get_mem _ _))
    exact List.dropWhile_eq_nil_iff.1 start
  · intro blank c member
    exact blank c (List.dropWhile_subset isBlank member)

private theorem trimStart_append {front : List Char} (blank : AllBlank front) (s : List Char) :
    trimStart (front ++ s) = trimStart s :=
  List.dropWhile_append_of_pos blank

private theorem trimEnd_append {back : List Char} (blank : AllBlank back) (s : List Char) :
    trimEnd (s ++ back) = trimEnd s := by
  rw [trimEnd, List.reverse_append, List.dropWhile_append_of_pos, trimEnd]
  exact fun c member => blank c (List.mem_reverse.1 member)

private theorem first_trimStart (s : List Char) : ∀ c ∈ (trimStart s).head?, isBlank c = false := by
  intro c first
  have stop := List.head?_dropWhile_not isBlank s
  rwa [← trimStart, first] at stop

private theorem last_trimEnd (s : List Char) : ∀ c ∈ (trimEnd s).getLast?, isBlank c = false := by
  rw [trimEnd, List.getLast?_reverse]
  exact first_trimStart s.reverse

/-- Cutting off blanks leaves a text exactly when only blanks surround it and it has none at its
ends. -/
theorem trimsTo_iff : TrimsTo s t ↔ trim s = t := by
  constructor
  · rintro ⟨⟨front, back, rfl, blank, blank'⟩, first, last⟩
    cases t with
    | nil =>
        rw [trim_eq_nil_iff, List.append_nil]
        exact List.forall_mem_append.2 ⟨blank, blank'⟩
    | cons c t =>
        have start : trimStart (c :: (t ++ back)) = c :: (t ++ back) :=
          List.dropWhile_cons_of_neg (ne_true_of_eq_false (first c rfl))
        have stop : (c :: t).rdropWhile isBlank = c :: t :=
          List.rdropWhile_eq_self_iff.2 fun filled =>
            ne_true_of_eq_false (last _ (List.getLast?_eq_some_getLast filled))
        rw [List.append_assoc, trim, trimStart_append blank, List.cons_append, start,
          ← List.cons_append, trimEnd_append blank', trimEnd_eq_rdropWhile, stop]
  · rintro rfl
    have start : s.takeWhile isBlank ++ trimStart s = s := List.takeWhile_append_dropWhile
    have stop : trim s ++ (trimStart s).rtakeWhile isBlank = trimStart s :=
      List.rdropWhile_append_rtakeWhile
    refine ⟨⟨s.takeWhile isBlank, (trimStart s).rtakeWhile isBlank, ?_, fun c =>
      List.mem_takeWhile_imp, fun c => List.mem_rtakeWhile_imp⟩, ?_, last_trimEnd _⟩
    · rw [List.append_assoc, stop, start]
    · intro c first
      refine first_trimStart s c ?_
      rw [← stop, List.head?_append, first]
      rfl

/-- Trimming leaves what a text is trimmed to. -/
theorem trimsTo_trim (s : List Char) : TrimsTo s (trim s) :=
  trimsTo_iff.2 rfl

/-- A trimmed text has no characters of its own. -/
theorem TrimsTo.subset (trimmed : TrimsTo s t) : t ⊆ s := by
  obtain ⟨⟨front, back, rfl, _⟩, _⟩ := trimmed
  exact fun c member => List.mem_append_left _ (List.mem_append_right _ member)

theorem TrimsTo.length_le (trimmed : TrimsTo s t) : t.length ≤ s.length := by
  obtain ⟨⟨front, back, rfl, _⟩, _⟩ := trimmed
  simp only [List.length_append]
  omega

/-- What is left without blanks has none to cut off. -/
theorem TrimsTo.self (trimmed : TrimsTo s t) : TrimsTo t t :=
  ⟨⟨[], [], by simp, List.forall_mem_nil _, List.forall_mem_nil _⟩, trimmed.first, trimmed.last⟩

/-- Blanks around a text are cut off with its own. -/
theorem trim_surround {front back : List Char} (blank : AllBlank front) (blank' : AllBlank back)
    (s : List Char) : trim (front ++ s ++ back) = trim s := by
  obtain ⟨⟨front', back', parts, own, own'⟩, first, last⟩ := trimsTo_trim s
  refine trimsTo_iff.1 ⟨⟨front ++ front', back' ++ back, ?_, ?_, ?_⟩, first, last⟩
  · conv_lhs => rw [parts]
    simp only [List.append_assoc]
  · exact List.forall_mem_append.2 ⟨blank, own⟩
  · exact List.forall_mem_append.2 ⟨own', blank'⟩

/-- Blanks in front do not matter for trimming. -/
theorem trim_trimStart (s : List Char) : trim (trimStart s) = trim s := by
  unfold trim trimStart
  rw [List.dropWhile_idempotent]

/-- Blanks behind do not matter for trimming. -/
theorem trim_trimEnd (s : List Char) : trim (trimEnd s) = trim s := by
  have parts : trimEnd s ++ s.rtakeWhile isBlank = s := List.rdropWhile_append_rtakeWhile
  have blank : AllBlank (s.rtakeWhile isBlank) := fun c => List.mem_rtakeWhile_imp
  calc trim (trimEnd s) = trim ([] ++ trimEnd s ++ s.rtakeWhile isBlank) :=
        (trim_surround (List.forall_mem_nil _) blank _).symm
    _ = trim s := by rw [List.nil_append, parts]

/-- Around a character that is no blank, each end is cut on its own. -/
theorem trim_append_cons (solid : isBlank c = false) (before after : List Char) :
    trim (before ++ c :: after) = trimStart before ++ c :: trimEnd after := by
  have start (s t : List Char) : trimStart (s ++ c :: t) = trimStart s ++ c :: t := by
    induction s with
    | nil => exact List.dropWhile_cons_of_neg (ne_true_of_eq_false solid)
    | cons d s ih =>
        unfold trimStart at *
        rw [List.cons_append, List.dropWhile_cons, List.dropWhile_cons, ih]
        split <;> rfl
  have stop : trimEnd (trimStart before ++ c :: after) =
      (trimStart (after.reverse ++ c :: (trimStart before).reverse)).reverse := by
    rw [trimEnd, List.reverse_append, List.reverse_cons, List.append_assoc]
    rfl
  rw [trim, start, stop, start]
  simp [trimEnd, trimStart]

/-- Cutting off blanks keeps all other characters. -/
theorem count_trim (solid : isBlank c = false) (s : List Char) : (trim s).count c = s.count c := by
  have absent {blanks : List Char} (blank : AllBlank blanks) : blanks.count c = 0 :=
    List.count_eq_zero.2 fun member => by
      rw [blank c member] at solid
      cases solid
  obtain ⟨⟨front, back, parts, blank, blank'⟩, _⟩ := trimsTo_trim s
  conv_rhs => rw [parts]
  rw [List.count_append, List.count_append, absent blank, absent blank', Nat.zero_add, Nat.add_zero]

end ConfigFacts.Text
