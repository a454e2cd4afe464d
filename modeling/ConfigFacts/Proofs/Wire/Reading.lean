import ConfigFacts.Proofs.Bins

/-!
# Reading facts back

The text of a bin is cut behind every line feed, and each line at every bar (`Bins.tuples`). Facts
that have at least one field, and neither a bar nor a line feed in any of them, are read back as
they were written (`Bins.tuples_of_text`). Such facts are told apart by their texts
(`Fact.text_eq_iff`).
-/

namespace ConfigFacts

/-- The pieces of a text that is cut behind every mark, without the marks. What follows the last
mark is a piece of its own unless it is empty. -/
def Text.cutBehind (mark : Char) : List Char → List (List Char)
  | [] => []
  | c :: rest =>
    if c = mark then [] :: cutBehind mark rest
    else
      match cutBehind mark rest with
      | [] => [[c]]
      | piece :: pieces => (c :: piece) :: pieces

/-- The texts of the fields of a fact. -/
def Fact.texts (f : Fact) : List String :=
  f.fields.map Field.render

/-- The texts of the fields of the facts of one kind. -/
def Fact.tuples (k : FactKind) (fs : List Fact) : List (List String) :=
  (fs.filter fun f => f.kind = k).map texts

/-- The lines in the bin of a kind, each cut at every bar. -/
def Bins.tuples (b : Bins) (k : FactKind) : List (List String) :=
  (Text.cutBehind '\n' (b.get k).toList).map fun line => (line.splitOn '|').map String.ofList

/-- A fact that its line does not blur: it has fields, and none of them holds a bar or a line
feed. -/
structure Fact.IsPlain (f : Fact) : Prop where
  fields : f.fields ≠ []
  bar : ∀ text ∈ f.texts, '|' ∉ text.toList
  feed : ∀ text ∈ f.texts, '\n' ∉ text.toList

namespace Text

/-- A piece without marks ends at the first mark. -/
theorem cutBehind_append_cons {mark : Char} {piece : List Char} (absent : mark ∉ piece)
    (rest : List Char) :
    cutBehind mark (piece ++ mark :: rest) = piece :: cutBehind mark rest := by
  induction piece with
  | nil => simp only [List.nil_append, cutBehind, ↓reduceIte]
  | cons c piece ih =>
      have other : c ≠ mark := fun same => absent (same ▸ List.mem_cons_self)
      have tail := ih fun later => absent (List.mem_cons_of_mem c later)
      simp only [List.cons_append, cutBehind, tail, other, ↓reduceIte]

private theorem cutBehind_flatMap {mark : Char} {pieces : List (List Char)}
    (absent : ∀ piece ∈ pieces, mark ∉ piece) :
    cutBehind mark (pieces.flatMap fun piece => piece ++ [mark]) = pieces := by
  induction pieces with
  | nil => rfl
  | cons piece pieces ih =>
      have first := absent piece List.mem_cons_self
      have tail := ih fun other member => absent other (List.mem_cons_of_mem _ member)
      rw [List.flatMap_cons, List.append_assoc, List.singleton_append,
        cutBehind_append_cons first, tail]

/-- What stands in pieces with marks between them is a mark or stands in a piece. -/
theorem mem_of_mem_intercalate {mark c : Char} {pieces : List (List Char)}
    (member : c ∈ [mark].intercalate pieces) : c = mark ∨ ∃ piece ∈ pieces, c ∈ piece := by
  induction pieces with
  | nil => cases member
  | cons piece rest ih =>
      cases rest with
      | nil =>
          rw [List.intercalate_singleton] at member
          exact .inr ⟨piece, List.mem_cons_self, member⟩
      | cons next rest =>
          rw [List.intercalate_cons_cons] at member
          rcases List.mem_append.1 member with front | later
          · rcases List.mem_append.1 front with inside | between
            · exact .inr ⟨piece, List.mem_cons_self, inside⟩
            · exact .inl (List.mem_singleton.1 between)
          · obtain same | ⟨other, listed, inside⟩ := ih later
            · exact .inl same
            · exact .inr ⟨other, List.mem_cons_of_mem _ listed, inside⟩

/-- Numbers are told apart by their notation. -/
theorem number_injective {m n : Nat} (same : toString m = toString n) : m = n := by
  rw [Nat.toString_eq_ofList_toDigits, Nat.toString_eq_ofList_toDigits] at same
  have digits := congrArg (fun cs => Nat.ofDigitChars 10 cs 0) (String.ofList_injective same)
  simpa only [Nat.ofDigitChars_ten_toDigits] using digits

end Text

namespace Fact

/-- The line of a fact joins the texts of its fields by bars. -/
theorem toList_line (f : Fact) :
    f.line.toList = ['|'].intercalate (f.texts.map String.toList) := by
  rw [line, String.toList_intercalate]
  rfl

/-- The text of facts of a kind is that of their lines, each with a line feed behind it. -/
theorem toList_text (k : FactKind) (fs : List Fact) :
    (text k fs).toList =
      ((fs.filter fun f => f.kind = k).map fun f => f.line.toList).flatMap
        fun line => line ++ ['\n'] := by
  rw [text, String.toList_join, List.flatMap_map, List.flatMap_map]
  simp only [String.toList_append]
  rfl

/-- A line feed in a line comes from a field. -/
theorem feed_not_mem_line {f : Fact} (feed : ∀ text ∈ f.texts, '\n' ∉ text.toList) :
    '\n' ∉ f.line.toList := by
  intro member
  rw [toList_line] at member
  rcases Text.mem_of_mem_intercalate member with bar | ⟨piece, listed, inside⟩
  · exact absurd bar (by decide)
  · obtain ⟨text, field, rfl⟩ := List.mem_map.1 listed
    exact feed text field inside

/-- The line of a plain fact falls into its fields at the bars. -/
theorem IsPlain.splitOn_line {f : Fact} (plain : f.IsPlain) :
    (f.line.toList.splitOn '|').map String.ofList = f.texts := by
  have absent : ∀ piece ∈ f.texts.map String.toList, '|' ∉ piece := by
    intro piece listed
    obtain ⟨text, field, rfl⟩ := List.mem_map.1 listed
    exact plain.bar text field
  have present : f.texts.map String.toList ≠ [] := by
    simpa only [texts, List.map_eq_nil_iff, ne_eq] using plain.fields
  rw [toList_line, List.splitOn_intercalate '|' absent present, List.map_map]
  exact List.map_id'' (fun text => String.ofList_toList) f.texts

end Fact

/-- The text of plain facts is read back as their fields. -/
theorem Bins.tuples_of_text {b : Bins} {k : FactKind} {fs : List Fact}
    (text : b.get k = Fact.text k fs) (plain : ∀ f ∈ fs, f.IsPlain) :
    b.tuples k = Fact.tuples k fs := by
  have own : ∀ f ∈ fs.filter fun f => f.kind = k, f.IsPlain := fun f member =>
    plain f (List.mem_filter.1 member).1
  have lines : Text.cutBehind '\n' (b.get k).toList =
      (fs.filter fun f => f.kind = k).map fun f => f.line.toList := by
    rw [text, Fact.toList_text]
    apply Text.cutBehind_flatMap
    intro line listed
    obtain ⟨f, member, rfl⟩ := List.mem_map.1 listed
    exact Fact.feed_not_mem_line (own f member).feed
  rw [tuples, lines, List.map_map]
  exact List.map_congr_left fun f member => (own f member).splitOn_line

/-- Plain facts have the same text exactly when they have the same fields in the same order. -/
theorem Fact.text_eq_iff {k : FactKind} {fs gs : List Fact} (left : ∀ f ∈ fs, f.IsPlain)
    (right : ∀ f ∈ gs, f.IsPlain) :
    text k fs = text k gs ↔ tuples k fs = tuples k gs := by
  constructor
  · intro same
    have written : (Bins.ofFacts fs).get k = text k fs := Bins.get_ofFacts k fs
    rw [← Bins.tuples_of_text written left, Bins.tuples_of_text (written.trans same) right]
  · intro same
    have text_of_tuples (hs : List Fact) : text k hs =
        String.join ((tuples k hs).map fun texts => "|".intercalate texts ++ "\n") := by
      rw [tuples, List.map_map]
      rfl
    rw [text_of_tuples, text_of_tuples, same]

end ConfigFacts
