import ConfigFacts.Pattern.Basic
import Mathlib.Logic.Function.Iterate

/-!
# What patterns match

`Pattern.Matches` says between which positions of a text a pattern matches. The table of a pattern
holds exactly these pairs (`Pattern.decides_reach`), so a pattern is found in a text when it matches
somewhere (`Pattern.foundIn_iff`). A match never leads backwards. So any number of repetitions comes
down to at most as many as the text has positions (`Pattern.exists_rounds_le`).
-/

namespace ConfigFacts.Pattern

/-- A number of steps of a relation one after the other. -/
def Rounds (r : Nat → Nat → Prop) : Nat → Nat → Nat → Prop
  | 0, i, j => i = j
  | n + 1, i, j => ∃ k, Rounds r n i k ∧ r k j

/-- A pattern matches the part of a text from a start to an end. -/
def Matches (text : List Char) : Pattern → Nat → Nat → Prop
  | empty, i, j => i = j
  | oneOf set, i, j => j = i + 1 ∧ ∃ c ∈ after text i, set c = true
  | anchor a, i, j => i = j ∧ a.holds (before text i) (after text i) = true
  | sequence p q, i, j => ∃ k, p.Matches text i k ∧ q.Matches text k j
  | choice p q, i, j => p.Matches text i j ∨ q.Matches text i j
  | repeated p least most, i, j =>
    ∃ more, (∀ m ∈ most, more ≤ m - least) ∧ Rounds (p.Matches text) (least + more) i j

/-- Steps from one of some positions lead to that position or to a later one. -/
def IsForward (positions : Nat) (r : Nat → Nat → Prop) : Prop :=
  ∀ i j, i < positions → r i j → i ≤ j ∧ j < positions

/-- A table has the truth values of a relation between positions. -/
def Reach.Decides (positions : Nat) (a : Reach) (r : Nat → Nat → Prop) : Prop :=
  ∃ test, a = table positions test ∧
    ∀ i < positions, ∀ j < positions, test i j = true ↔ r i j

variable {n : Nat} {r s : Nat → Nat → Prop}

/-! ### Matches lead forward -/

/-- Rounds of forward steps lead forward. -/
theorem IsForward.rounds (forward : IsForward n r) (m : Nat) : IsForward n (Rounds r m) := by
  induction m with
  | zero =>
      rintro i _ inside rfl
      exact ⟨Nat.le_refl i, inside⟩
  | succ m ih =>
      rintro i j inside ⟨k, front, last⟩
      obtain ⟨later, inside'⟩ := ih i k inside front
      obtain ⟨later', inside''⟩ := forward k j inside' last
      exact ⟨Nat.le_trans later later', inside''⟩

private theorem isForward_matches (text : List Char) (p : Pattern) :
    IsForward (text.length + 1) (p.Matches text) := by
  induction p with
  | empty =>
      rintro i _ inside rfl
      exact ⟨Nat.le_refl i, inside⟩
  | oneOf set =>
      rintro i _ _ ⟨rfl, c, found, _⟩
      have inside := (List.getElem?_eq_some_iff.1 found).1
      exact ⟨Nat.le_succ i, Nat.succ_lt_succ inside⟩
  | anchor a =>
      rintro i _ inside ⟨rfl, _⟩
      exact ⟨Nat.le_refl i, inside⟩
  | sequence p q first second =>
      rintro i j inside ⟨k, front, back⟩
      obtain ⟨later, inside'⟩ := first i k inside front
      obtain ⟨later', inside''⟩ := second k j inside' back
      exact ⟨Nat.le_trans later later', inside''⟩
  | choice p q first second =>
      rintro i j inside (left | right)
      · exact first i j inside left
      · exact second i j inside right
  | repeated p least most once =>
      rintro i j inside ⟨more, _, rounds⟩
      exact once.rounds _ i j inside rounds

/-- Of the steps behind the first ones, those that stay where they are can be left out. -/
theorem exists_rounds_le (forward : IsForward n r) {i j least more : Nat} (inside : i < n)
    (rounds : Rounds r (least + more) i j) : ∃ few ≤ j, Rounds r (least + few) i j := by
  induction more generalizing j with
  | zero => exact ⟨0, Nat.zero_le j, rounds⟩
  | succ more ih =>
      obtain ⟨k, front, last⟩ := rounds
      obtain ⟨few, small, fewer⟩ := ih front
      have inside' := (forward.rounds _ i k inside front).2
      rcases Nat.eq_or_lt_of_le (forward k j inside' last).1 with rfl | later
      · exact ⟨few, small, fewer⟩
      · exact ⟨few + 1, Nat.succ_le_of_lt (Nat.lt_of_le_of_lt small later), k, fewer, last⟩

/-! ### Tables -/

namespace Reach

variable {a b : Reach}

private theorem decides_table {test : Nat → Nat → Bool}
    (same : ∀ i < n, ∀ j < n, test i j = true ↔ r i j) : (table n test).Decides n r :=
  ⟨test, rfl, same⟩

/-- A table that decides a relation decides any one that is the same inside of the text. -/
theorem Decides.congr (decides : a.Decides n r) (same : ∀ i < n, ∀ j < n, r i j ↔ s i j) :
    a.Decides n s := by
  obtain ⟨test, rfl, holds⟩ := decides
  exact decides_table fun i inside j inside' =>
    (holds i inside j inside').trans (same i inside j inside')

/-- The union of two tables decides either relation. -/
theorem Decides.union (first : a.Decides n r) (second : b.Decides n s) :
    (a.union b).Decides n fun i j => r i j ∨ s i j := by
  obtain ⟨test, rfl, holds⟩ := first
  obtain ⟨test', rfl, holds'⟩ := second
  have rows : (table n test).union (table n test') = table n fun i j => test i j || test' i j := by
    simp only [Reach.union, table, List.zipWith_map, List.zipWith_self]
  rw [rows]
  refine decides_table fun i inside j inside' => ?_
  rw [Bool.or_eq_true, holds i inside j inside', holds' i inside j inside']

/-- The rows of some starts, united with ends that are there already. -/
theorem foldl_rows (test : Nat → Nat → Bool) (here ends : Nat → Bool) (starts : List Nat) :
    starts.foldl (fun ends k =>
        if here k then ends.zipWith or ((List.range n).map (test k)) else ends)
      ((List.range n).map ends) =
      (List.range n).map fun j => ends j || starts.any fun k => here k && test k j := by
  induction starts generalizing ends with
  | nil => simp only [List.foldl_nil, List.any_nil, Bool.or_false]
  | cons k rest ih =>
      rw [List.foldl_cons]
      cases chosen : here k with
      | true =>
          rw [if_pos rfl, List.zipWith_map, List.zipWith_self, ih]
          simp only [List.any_cons, chosen, Bool.true_and, Bool.or_assoc]
      | false =>
          rw [if_neg Bool.false_ne_true, ih]
          simp only [List.any_cons, chosen, Bool.false_and, Bool.false_or]

private theorem image_table (here : Nat → Bool) (test : Nat → Nat → Bool) :
    image ((List.range n).map here) (table n test) =
      (List.range n).map fun j => (List.range n).any fun k => here k && test k j := by
  rw [image, table, List.zip_map', List.foldl_map, List.map_map]
  exact (foldl_rows test here (fun _ => false) _).trans (by simp only [Bool.false_or])

/-- The composition of two tables decides one relation after the other. -/
theorem Decides.comp (forward : IsForward n r) (first : a.Decides n r)
    (second : b.Decides n s) : (a.comp b).Decides n fun i j => ∃ k, r i k ∧ s k j := by
  obtain ⟨test, rfl, holds⟩ := first
  obtain ⟨test', rfl, holds'⟩ := second
  have rows : (table n test).comp (table n test') =
      table n fun i j => (List.range n).any fun k => test i k && test' k j := by
    rw [Reach.comp]
    simp only [table, List.map_map]
    exact List.map_congr_left fun i _ => image_table (test i) test'
  rw [rows]
  refine decides_table fun i inside j inside' => ?_
  rw [List.any_eq_true]
  constructor
  · rintro ⟨k, listed, both⟩
    have between := List.mem_range.1 listed
    obtain ⟨front, back⟩ := Bool.and_eq_true_iff.1 both
    exact ⟨k, (holds i inside k between).1 front, (holds' k between j inside').1 back⟩
  · rintro ⟨k, front, back⟩
    have between := (forward i k inside front).2
    exact ⟨k, List.mem_range.2 between, Bool.and_eq_true_iff.2
      ⟨(holds i inside k between).2 front, (holds' k between j inside').2 back⟩⟩

/-- Not to apply a function where it changes nothing makes no difference. -/
theorem iterate_eq (f : Reach → Reach) (m : Nat) (a : Reach) : iterate f m a = f^[m] a := by
  induction m generalizing a with
  | zero => rfl
  | succ m ih =>
      rw [iterate, Function.iterate_succ_apply]
      split
      next fixed => rw [fixed, Function.iterate_fixed fixed]
      next => exact ih (f a)

section Repetition

variable (forward : IsForward n r) (once : b.Decides n r)

include forward once

/-- Composing with a table again and again decides rounds of its relation. -/
theorem Decides.rounds (m : Nat) :
    ((fun a : Reach => a.comp b)^[m] (identity n)).Decides n (Rounds r m) := by
  induction m with
  | zero => exact decides_table fun i _ j _ => decide_eq_true_iff
  | succ m ih =>
      rw [Function.iterate_succ_apply']
      exact Decides.comp (forward.rounds m) ih once

private theorem Decides.moreRounds (least : Nat) (start : a.Decides n (Rounds r least)) (m : Nat) :
    ((fun a : Reach => a.union (a.comp b))^[m] a).Decides n fun i j =>
      ∃ more ≤ m, Rounds r (least + more) i j := by
  induction m with
  | zero =>
      refine start.congr fun i _ j _ => ⟨fun rounds => ⟨0, Nat.le_refl 0, rounds⟩, ?_⟩
      rintro ⟨more, none, rounds⟩
      rwa [Nat.le_zero.1 none] at rounds
  | succ m ih =>
      rw [Function.iterate_succ_apply']
      have ahead : IsForward n fun i j => ∃ more ≤ m, Rounds r (least + more) i j := by
        rintro i j inside ⟨more, _, rounds⟩
        exact forward.rounds _ i j inside rounds
      refine (ih.union (ih.comp ahead once)).congr fun i _ j _ => ?_
      constructor
      · rintro (⟨more, small, rounds⟩ | ⟨k, ⟨more, small, rounds⟩, last⟩)
        · exact ⟨more, Nat.le_succ_of_le small, rounds⟩
        · exact ⟨more + 1, Nat.succ_le_succ small, k, rounds, last⟩
      · rintro ⟨more | more, small, rounds⟩
        · exact .inl ⟨0, Nat.zero_le m, rounds⟩
        · obtain ⟨k, front, last⟩ := rounds
          exact .inr ⟨k, ⟨more, Nat.le_of_succ_le_succ small, front⟩, last⟩

end Repetition

end Reach

/-! ### The table of a pattern -/

/-- The table of a pattern holds exactly its matches. -/
theorem decides_reach (text : List Char) (p : Pattern) :
    (p.reach text).Decides (text.length + 1) (p.Matches text) := by
  induction p with
  | empty => exact Reach.decides_table fun i _ j _ => decide_eq_true_iff
  | oneOf set =>
      refine Reach.decides_table fun i _ j _ => ?_
      rw [Bool.and_eq_true, decide_eq_true_eq, Option.any_eq_true]
      rfl
  | anchor a =>
      refine Reach.decides_table fun i _ j _ => ?_
      rw [Bool.and_eq_true, decide_eq_true_eq]
      rfl
  | sequence p q first second => exact first.comp (isForward_matches text p) second
  | choice p q first second => exact first.union second
  | repeated p least most once =>
      have forward := isForward_matches text p
      rw [reach, Reach.iterate_eq, Reach.iterate_eq]
      have start := Reach.Decides.rounds forward once least
      have whole := Reach.Decides.moreRounds forward once least start
      refine (whole _).congr fun i inside j inside' => ?_
      cases most with
      | some most =>
          refine exists_congr fun more => and_congr_left fun _ => ?_
          simp only [Option.elim_some, Option.mem_some_iff, forall_eq']
      | none =>
          constructor
          · rintro ⟨more, _, rounds⟩
            exact ⟨more, nofun, rounds⟩
          · rintro ⟨more, _, rounds⟩
            obtain ⟨few, small, fewer⟩ := exists_rounds_le forward inside rounds
            exact ⟨few, Nat.le_trans small (Nat.le_of_lt inside'), fewer⟩

/-- A pattern is found in a text when it matches some part of the text. -/
theorem foundIn_iff {text : List Char} {p : Pattern} :
    p.foundIn text = true ↔ ∃ i ≤ text.length, ∃ j, p.Matches text i j := by
  obtain ⟨test, table, holds⟩ := decides_reach text p
  rw [foundIn, table, List.any_eq_true]
  constructor
  · rintro ⟨ends, row, some⟩
    obtain ⟨i, start, rfl⟩ := List.mem_map.1 row
    obtain ⟨_, listed, found⟩ := List.any_eq_true.1 some
    obtain ⟨j, stop, rfl⟩ := List.mem_map.1 listed
    have inside := List.mem_range.1 start
    exact ⟨i, Nat.le_of_lt_succ inside, j, (holds i inside j (List.mem_range.1 stop)).1 found⟩
  · rintro ⟨i, inside, j, found⟩
    have start := Nat.lt_succ_of_le inside
    have stop := (isForward_matches text p i j start found).2
    refine ⟨_, List.mem_map_of_mem (List.mem_range.2 start), List.any_eq_true.2 ?_⟩
    exact ⟨_, List.mem_map_of_mem (List.mem_range.2 stop), (holds i start j stop).2 found⟩

end ConfigFacts.Pattern
