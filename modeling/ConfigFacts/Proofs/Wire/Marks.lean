import ConfigFacts.Proofs.Double.Numeral
import ConfigFacts.Proofs.Wire.Reading

/-!
# Marks in facts

Bars and line feeds stand between the fields of facts and behind their lines, or come from the
strings in the fields. Numbers and doubles bring none (`Field.unmarked_render`), so a fact whose
strings are free of marks is read back from its line (`Fact.isPlain_of_strings`).
-/

namespace ConfigFacts

/-- The characters that structure the text of a bin. -/
def Text.IsMark (c : Char) : Prop :=
  c = '|' ∨ c = '\n'

/-- The strings in a field. -/
def Field.strings : Field → List String
  | .text s => [s]
  | .name q => [q.hostname, q.localName]
  | .number _ | .double _ => []

/-- The strings in the fields of a fact. -/
def Fact.strings (f : Fact) : List String :=
  f.fields.flatMap Field.strings

/-- A string without bars and line feeds. -/
def Text.Unmarked (s : String) : Prop :=
  '|' ∉ s.toList ∧ '\n' ∉ s.toList

instance (s : String) : Decidable (Text.Unmarked s) :=
  inferInstanceAs (Decidable (_ ∧ _))

namespace Text

private theorem not_mark_of_isDigit {c : Char} (digit : c.isDigit) : ¬IsMark c := by
  rintro (rfl | rfl)
  · exact absurd digit (by decide)
  · exact absurd digit (by decide)

/-- A text is unmarked if none of its characters is a mark. -/
theorem unmarked_iff {s : String} : Unmarked s ↔ ∀ c ∈ s.toList, ¬IsMark c := by
  constructor
  · rintro ⟨bar, feed⟩ c member (rfl | rfl)
    · exact bar member
    · exact feed member
  · intro free
    exact ⟨fun bar => free _ bar (.inl rfl), fun feed => free _ feed (.inr rfl)⟩

/-- Unmarked texts behind each other are unmarked. -/
theorem unmarked_append {s t : String} (first : Unmarked s) (second : Unmarked t) :
    Unmarked (s ++ t) := by
  rw [unmarked_iff] at *
  rw [String.toList_append]
  exact List.forall_mem_append.2 ⟨first, second⟩

end Text

open ConfigFacts.Text (IsMark Unmarked)

/-- The text of a double is unmarked. -/
theorem Double.unmarked_factText (x : Double) : Unmarked x.factText := by
  unfold factText
  split
  · exact ⟨by decide, by decide⟩
  · split
    · split
      · exact ⟨by decide, by decide⟩
      · exact ⟨by decide, by decide⟩
    · rw [Text.unmarked_iff, String.toList_ofList]
      intro c member
      rcases Numeral.mem_characters (fun _ => Notation.isDigit_of_mem_fraction) member with
        digit | rfl | rfl | rfl | rfl
      · exact Text.not_mark_of_isDigit digit
      all_goals rintro (same | same) <;> cases same

/-- A field brings no marks if its strings do not. -/
theorem Field.unmarked_render {f : Field} (strings : ∀ s ∈ f.strings, Unmarked s) :
    Unmarked f.render := by
  cases f with
  | text s => exact strings s List.mem_cons_self
  | number n =>
      rw [Text.unmarked_iff]
      intro c member
      rw [render, Nat.toString_eq_ofList_toDigits, String.toList_ofList] at member
      exact Text.not_mark_of_isDigit (Text.isDigit_of_mem_toDigits member)
  | name q =>
      have hostname := strings q.hostname List.mem_cons_self
      have localName := strings q.localName (List.mem_cons_of_mem _ List.mem_cons_self)
      have colon : Unmarked ":" := ⟨by decide, by decide⟩
      exact Text.unmarked_append (Text.unmarked_append hostname colon) localName
  | double x => exact x.unmarked_factText

/-- A fact with fields is plain if its strings are free of marks. -/
theorem Fact.isPlain_of_strings {f : Fact} (fields : f.fields ≠ [])
    (strings : ∀ s ∈ f.strings, Unmarked s) : f.IsPlain := by
  have unmarked : ∀ text ∈ f.texts, Unmarked text := by
    refine List.forall_mem_map.2 fun field member => Field.unmarked_render fun s inside => ?_
    exact strings s (List.mem_flatMap.2 ⟨field, member, inside⟩)
  exact ⟨fields, fun text member => (unmarked text member).1,
    fun text member => (unmarked text member).2⟩

end ConfigFacts
