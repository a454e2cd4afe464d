import ConfigFacts.Pattern.Reader
import ConfigFacts.Proofs.Pattern.Matches
import Mathlib.Data.List.Forall2

/-!
# Literal patterns

A text without signs is a pattern for the texts that it is a part of (`Pattern.exists_literal`), and
between the signs for both ends it is one for itself alone (`Pattern.exists_anchored`).
-/

namespace ConfigFacts.Pattern

/-- The characters that do not stand for themselves in a pattern. -/
def signs : List Char :=
  ['(', ')', '|', '[', '?', '*', '+', '\x7b', '\\', '.', '^', '$']

/-! ### Reading -/

/-- A character is read as a piece of its own, wherever it stands behind no flags. -/
def ReadsAs (c : Char) (p : Part) : Prop :=
  ∀ (r : Reading) (s : List Char), r.level.mode = .initial → r.step? c s = some (r.add p, s)

private theorem readsAs_character {c : Char} (plain : c ∉ signs) : ReadsAs c (.character c) := by
  intro r s initial
  unfold Reading.step?
  rw [initial]
  split
  all_goals first
    | rfl
    | exact absurd (by decide) plain

private theorem readsAs_start : ReadsAs '^' (.anchor .start) := fun _ _ _ => rfl

private theorem readsAs_finish : ReadsAs '$' (.anchor .finish) := fun _ _ _ => rfl

/-- Pieces that are added to a reading stand in front of those that are there, the last one first. -/
theorem foldl_add (ps : List Part) (r : Reading) :
    ps.foldl Reading.add r = { r with level := { r.level with
      pieces := (ps.map fun p => (p, true)).reverse ++ r.level.pieces } } := by
  induction ps generalizing r with
  | nil => rfl
  | cons p ps ih =>
      rw [List.foldl_cons, ih, List.map_cons, List.reverse_cons, List.append_assoc]
      rfl

private theorem readAll?_of_readsAs {s : List Char} {ps : List Part}
    (reads : List.Forall₂ ReadsAs s ps)
    {r : Reading} (initial : r.level.mode = .initial) {n : Nat} (enough : s.length < n) :
    Reading.readAll? n r s = some (ps.foldl Reading.add r) := by
  have skip {r : Reading} (initial : r.level.mode = .initial) (s : List Char) :
      r.level.mode.skip s = s := by
    rw [initial]
    rfl
  induction reads generalizing r n with
  | nil =>
      cases n with
      | zero => cases enough
      | succ n => rw [Reading.readAll?, skip initial, List.foldl_nil]
  | @cons c p s ps read _ ih =>
      cases n with
      | zero => cases enough
      | succ n =>
          have unchanged : (r.add p).level.mode = .initial := initial
          rw [Reading.readAll?, skip initial, List.foldl_cons]
          simp only [read r s initial, Option.bind_eq_bind, Option.bind_some]
          exact ih unchanged (Nat.lt_of_succ_lt_succ enough)

/-- A piece does not nest and takes no more room than one character. -/
def IsSmall (p : Part) : Prop :=
  p.depth = 0 ∧ p.size ≤ 128

private theorem isSmall_character (c : Char) : IsSmall (.character c) :=
  ⟨rfl, Nat.mul_le_mul_left stateSize (Char.utf8Size_le_four c)⟩

private theorem isSmall_anchor (a : Anchor) : IsSmall (.anchor a) :=
  ⟨rfl, (by decide : stateSize ≤ 128)⟩

private theorem depth_sequence_le {ps : List Part} (small : ∀ p ∈ ps, IsSmall p) :
    (Part.sequence ps).depth ≤ 1 := by
  have none (ps : List Part) (small : ∀ p ∈ ps, IsSmall p) :
      ps.foldl (fun n q => max n q.depth) 0 = 0 := by
    induction ps with
    | nil => rfl
    | cons p ps ih =>
        rw [List.foldl_cons, (small p List.mem_cons_self).1]
        exact ih fun p later => small p (List.mem_cons_of_mem _ later)
  match ps, small with
  | [], _ => exact Nat.zero_le 1
  | [p], small => exact Nat.le_trans (Nat.le_of_eq (small p List.mem_cons_self).1) (Nat.zero_le 1)
  | p :: q :: ps, small =>
      have deepest : (q :: ps).foldl (fun n q => max n q.depth) p.depth = 0 := by
        rw [(small p List.mem_cons_self).1]
        exact none _ fun p later => small p (List.mem_cons_of_mem _ later)
      exact Nat.le_of_eq (congrArg (1 + ·) deepest)

private theorem size_sequence_le {ps : List Part} (small : ∀ p ∈ ps, IsSmall p) :
    (Part.sequence ps).size ≤ 128 * ps.length + 32 := by
  have total (ps : List Part) (small : ∀ p ∈ ps, IsSmall p) (n : Nat) :
      ps.foldl (fun n q => n + q.size) n ≤ n + 128 * ps.length := by
    induction ps generalizing n with
    | nil => exact Nat.le_refl n
    | cons p ps ih =>
        have own := (small p List.mem_cons_self).2
        have rest := ih (fun p later => small p (List.mem_cons_of_mem _ later)) (n + p.size)
        rw [List.foldl_cons, List.length_cons]
        omega
  match ps, small with
  | [], _ => exact Nat.le_refl 32
  | [p], small =>
      have own := (small p List.mem_cons_self).2
      exact Nat.le_trans own (Nat.le_add_right _ _)
  | p :: q :: ps, small =>
      have own := (small p List.mem_cons_self).2
      have rest := total (q :: ps) (fun p later => small p (List.mem_cons_of_mem _ later)) p.size
      show (q :: ps).foldl _ p.size ≤ _
      rw [List.length_cons]
      omega

/-- A text whose characters are read one by one is a pattern unless it is too long. -/
theorem ofCharacters?_of_readsAs {s : List Char} {ps : List Part}
    (reads : List.Forall₂ ReadsAs s ps) (small : ∀ p ∈ ps, IsSmall p) (short : s.length ≤ 65536) :
    ofCharacters? s = some (Part.sequence ps).pattern := by
  have read : Reading.readAll? (s.length + 1) .initial s = some (ps.foldl Reading.add .initial) :=
    readAll?_of_readsAs reads rfl (Nat.lt_succ_self _)
  have pieces : (ps.foldl Reading.add .initial).level.choice = Part.sequence ps := by
    rw [foldl_add]
    show Part.sequence (((ps.map fun p => (p, true)).reverse ++ []).reverse.map Prod.fst) = _
    rw [List.append_nil, List.reverse_reverse, List.map_map]
    exact congrArg _ (List.map_id ps)
  have closed : (ps.foldl Reading.add .initial).outer.isEmpty = true := by
    rw [foldl_add]
    rfl
  have depth := depth_sequence_le small
  have size := size_sequence_le small
  rw [← reads.length_eq] at size
  rw [ofCharacters?, read, Option.bind_eq_bind, Option.bind_some, closed]
  show (ps.foldl Reading.add .initial).level.choice.whole? = _
  rw [pieces, Part.whole?, if_pos]
  refine ⟨Nat.le_trans depth (by decide), Nat.le_trans size ?_⟩
  rw [Part.sizeLimit]
  omega

/-! ### Matching -/

/-- Pieces match one after the other. -/
def MatchInTurn (text : List Char) : List Part → Nat → Nat → Prop
  | [], i, j => i = j
  | p :: ps, i, j => ∃ k, p.pattern.Matches text i k ∧ MatchInTurn text ps k j

variable {text s : List Char} {i j : Nat}

/-- A sequence matches when its parts match in turn. -/
theorem matches_sequence (ps : List Part) :
    (Part.sequence ps).pattern.Matches text i j ↔ MatchInTurn text ps i j := by
  have chain (ps : List Part) (p : Pattern) (j : Nat) :
      (ps.foldl (fun q r => .sequence q r.pattern) p).Matches text i j ↔
        ∃ k, p.Matches text i k ∧ MatchInTurn text ps k j := by
    induction ps generalizing p with
    | nil => simp only [List.foldl_nil, MatchInTurn, exists_eq_right]
    | cons q ps ih =>
        rw [List.foldl_cons, ih]
        simp only [Matches, MatchInTurn, ← exists_and_left, ← exists_and_right, and_assoc]
        exact exists_comm
  match ps with
  | [] => exact Iff.rfl
  | [p] => simp only [Part.sequence, MatchInTurn, exists_eq_right]
  | p :: q :: ps => exact chain (q :: ps) p.pattern j

private theorem matchInTurn_append (ps qs : List Part) :
    MatchInTurn text (ps ++ qs) i j ↔ ∃ k, MatchInTurn text ps i k ∧ MatchInTurn text qs k j := by
  induction ps generalizing i with
  | nil => simp only [List.nil_append, MatchInTurn, exists_eq_left']
  | cons p ps ih =>
      simp only [List.cons_append, MatchInTurn, ih, ← exists_and_left, ← exists_and_right,
        and_assoc]
      exact exists_comm

private theorem cons_prefix_drop_iff {c : Char} :
    c :: s <+: text.drop i ↔ text[i]? = some c ∧ s <+: text.drop (i + 1) := by
  rw [← List.head?_drop, ← List.tail_drop]
  cases text.drop i with
  | nil => simp
  | cons d rest => rw [List.cons_prefix_cons, List.head?_cons, List.tail_cons, Option.some_inj,
      eq_comm]

/-- Characters match a part of the text that is spelled by them. -/
theorem matchInTurn_characters :
    MatchInTurn text (s.map .character) i j ↔ j = i + s.length ∧ s <+: text.drop i := by
  induction s generalizing i with
  | nil => simp only [List.map_nil, MatchInTurn, List.length_nil, Nat.add_zero, List.nil_prefix,
      and_true, eq_comm]
  | cons c s ih =>
      have first (k : Nat) : (Part.character c).pattern.Matches text i k ↔
          k = i + 1 ∧ text[i]? = some c := by
        simp only [Part.character, Matches, after, decide_eq_true_eq, Option.mem_def,
          exists_eq_right]
      simp only [List.map_cons, MatchInTurn, first, ih, cons_prefix_drop_iff, List.length_cons]
      constructor
      · rintro ⟨_, ⟨rfl, spelled⟩, rfl, rest⟩
        exact ⟨by omega, spelled, rest⟩
      · rintro ⟨rfl, spelled, rest⟩
        exact ⟨i + 1, ⟨rfl, spelled⟩, by omega, rest⟩

private theorem matches_start (inside : i ≤ text.length) :
    (Part.anchor .start).pattern.Matches text i j ↔ i = 0 ∧ j = 0 := by
  simp only [Part.anchor, Matches, Anchor.holds, before]
  by_cases first : i = 0
  · simp [first, eq_comm]
  · have previous : i - 1 < text.length := by omega
    simp [first, previous]

private theorem matches_finish :
    (Part.anchor .finish).pattern.Matches text i j ↔ i = j ∧ text.length ≤ i := by
  simp only [Part.anchor, Matches, Anchor.holds, after, Option.isNone_iff_eq_none,
    List.getElem?_eq_none_iff]

/-- A text is part of another one when it stands behind some position. -/
theorem exists_prefix_drop_iff : (∃ i ≤ text.length, s <+: text.drop i) ↔ s <:+: text := by
  constructor
  · rintro ⟨i, _, front⟩
    exact front.isInfix.trans (List.drop_suffix i text).isInfix
  · rintro ⟨front, back, rfl⟩
    refine ⟨front.length, by simp, ?_⟩
    rw [List.append_assoc, List.drop_left]
    exact List.prefix_append s back

private theorem readsAs_characters (plain : ∀ c ∈ s, c ∉ signs) :
    List.Forall₂ ReadsAs s (s.map .character) := by
  rw [List.forall₂_map_right_iff, List.forall₂_same]
  exact fun c member => readsAs_character (plain c member)

private theorem isSmall_of_mem_characters {p : Part} (member : p ∈ s.map Part.character) :
    IsSmall p := by
  obtain ⟨c, _, rfl⟩ := List.mem_map.1 member
  exact isSmall_character c

/-- A text without signs is the pattern for the texts that it is a part of. -/
theorem exists_literal (plain : ∀ c ∈ s, c ∉ signs) (short : s.length ≤ 65536) :
    ∃ p, ofCharacters? s = some p ∧ ∀ text, p.foundIn text = true ↔ s <:+: text := by
  refine ⟨_, ofCharacters?_of_readsAs (readsAs_characters plain)
    (fun _ => isSmall_of_mem_characters) short, fun text => ?_⟩
  simp only [foundIn_iff, matches_sequence, matchInTurn_characters, exists_eq_left]
  exact exists_prefix_drop_iff

/-- A text without signs, between those for both ends, is the pattern for itself alone. -/
theorem exists_anchored (plain : ∀ c ∈ s, c ∉ signs) (short : s.length ≤ 65534) :
    ∃ p, ofCharacters? ('^' :: s ++ ['$']) = some p ∧
      ∀ text, p.foundIn text = true ↔ text = s := by
  have reads : List.Forall₂ ReadsAs ('^' :: s ++ ['$'])
      (.anchor .start :: s.map .character ++ [.anchor .finish]) :=
    .cons readsAs_start (List.rel_append (readsAs_characters plain) (.cons readsAs_finish .nil))
  have small : ∀ p ∈ (.anchor .start :: s.map .character ++ [.anchor .finish] : List Part),
      IsSmall p := by
    intro p member
    rcases List.mem_append.1 member with front | finish
    · rcases List.mem_cons.1 front with rfl | character
      · exact isSmall_anchor _
      · exact isSmall_of_mem_characters character
    · rw [List.mem_singleton.1 finish]
      exact isSmall_anchor _
  have length : ('^' :: s ++ ['$']).length ≤ 65536 := by
    rw [List.length_append, List.length_cons, List.length_singleton]
    omega
  refine ⟨_, ofCharacters?_of_readsAs reads small length, fun text => ?_⟩
  simp only [foundIn_iff, matches_sequence, List.cons_append, MatchInTurn, matchInTurn_append,
    matchInTurn_characters, matches_finish]
  constructor
  · rintro ⟨i, inside, j, k, start, m, ⟨rfl, front⟩, _, ⟨rfl, stop⟩, rfl⟩
    obtain ⟨rfl, rfl⟩ := (matches_start inside).1 start
    rw [Nat.zero_add] at stop
    exact (front.eq_of_length_le stop).symm
  · rintro rfl
    refine ⟨0, Nat.zero_le _, text.length, 0, (matches_start (Nat.zero_le _)).2 ⟨rfl, rfl⟩,
      text.length, ⟨(Nat.zero_add _).symm, ?_⟩, text.length, ⟨rfl, Nat.le_refl _⟩, rfl⟩
    exact List.prefix_refl text

end ConfigFacts.Pattern
