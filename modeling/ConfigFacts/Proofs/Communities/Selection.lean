import ConfigFacts.CommunityList
import ConfigFacts.Proofs.CommunitySet
import ConfigFacts.Proofs.Pattern.Literal
import ConfigFacts.Proofs.Text.Digits
import Mathlib.Data.List.Nodup

/-!
# Communities that patterns select

The notation of a community tells it from all others (`Community.toString_injective`). It has nothing
but digits and a colon, which stand for themselves in patterns. So a line with a part of a notation
selects the members that have this part in their notation, and a line with a whole notation between
the signs for both ends selects its community alone (`CommunityListLine.matching?_notation`).
-/

namespace ConfigFacts

namespace Community

/-- A community is told by its two halves. -/
theorem eq_of_halves {c d : Community} (high : c.high = d.high) (low : c.low = d.low) : c = d := by
  have value (c : Community) : c.high * UInt16.size + c.low = c.value.toNat :=
    Nat.div_add_mod' _ _
  have same : c.value.toNat = d.value.toNat := by rw [← value, ← value, high, low]
  exact congrArg mk (UInt32.toNat.inj same)

/-- A notation has nothing but digits and a colon. -/
theorem isDigit_of_mem_characters {c : Community} {x : Char} (member : x ∈ c.characters) :
    x.isDigit ∨ x = ':' := by
  rcases List.mem_append.1 member with high | colon
  · exact .inl (Text.isDigit_of_mem_toDigits high)
  · rcases List.mem_cons.1 colon with rfl | low
    · exact .inr rfl
    · exact .inl (Text.isDigit_of_mem_toDigits low)

/-- Communities are told apart by their notations. -/
theorem characters_injective : Function.Injective characters := by
  have colon (n : Nat) : ':' ∉ Nat.toDigits 10 n := Text.not_mem_toDigits rfl
  intro c d same
  obtain ⟨high, _, low⟩ := (List.append_cons_inj_of_notMem (colon c.high) (colon c.low)).1 same
  exact eq_of_halves (Text.toDigits_injective high) (Text.toDigits_injective low)

@[simp] theorem toList_toString (c : Community) : (toString c).toList = c.characters :=
  String.toList_ofList

/-- The notation of a community tells it from all others. -/
theorem toString_injective : Function.Injective (toString : Community → String) := by
  intro c d same
  apply characters_injective
  rw [← toList_toString, ← toList_toString, same]

/-- A half has five digits at most. -/
theorem length_characters_le (c : Community) : c.characters.length ≤ 11 := by
  have digits {n : Nat} (half : n < UInt16.size) : (Nat.toDigits 10 n).length ≤ 5 := by
    rw [Nat.length_toDigits_le_iff (by decide) (by decide)]
    exact Nat.lt_trans half (by decide)
  have high : c.high < UInt16.size := Nat.div_lt_of_lt_mul c.value.toNat_lt
  have low : c.low < UInt16.size := Nat.mod_lt _ (by decide)
  have front := digits high
  have back := digits low
  rw [characters, List.length_append, List.length_cons]
  omega

end Community

/-- The members of a set with a property, once each and in ascending order. -/
structure CommunitySet.Selects (s : CommunitySet) (p : Community → Prop) (cs : List Community) :
    Prop where
  mem_iff : ∀ c, c ∈ cs ↔ c ∈ s.members ∧ p c
  ascending : cs.Pairwise fun a b => a.value < b.value

namespace CommunitySet

/-- A filter selects the communities that pass it. -/
theorem selects_filter (s : CommunitySet) {p : Community → Prop} {test : Community → Bool}
    (same : ∀ c, test c = true ↔ p c) : s.Selects p (s.members.filter test) where
  mem_iff c := by rw [List.mem_filter, same]
  ascending := (s.members_sorted.filter _).imp fun less => Std.compare_eq_lt.1 less

/-- At most one member has a property that tells a community from all others. -/
theorem filter_eq_of_unique (s : CommunitySet) {test : Community → Bool} {c : Community}
    (only : ∀ d, test d = true ↔ d = c) :
    s.members.filter test = if c ∈ s.members then [c] else [] := by
  have same : s.members.filter test = s.members.filter (· = c) :=
    List.filter_congr fun d _ => Bool.eq_iff_iff.2 ((only d).trans decide_eq_true_iff.symm)
  rw [same, List.filter_eq]
  split
  next member => rw [List.count_eq_one_of_mem s.members_nodup member, List.replicate_one]
  next other => rw [List.count_eq_zero_of_not_mem other, List.replicate_zero]

end CommunitySet

namespace CommunityListLine

open Pattern

variable {s : CommunitySet} {action : LineAction}

/-- Digits and the colon stand for themselves in patterns. -/
theorem not_mem_signs {c : Char} (part : c.isDigit ∨ c = ':') : c ∉ signs := by
  rcases part with digit | rfl
  · have others : signs.all fun d => d.isDigit = false := by decide
    intro sign
    simpa [digit] using List.all_eq_true.1 others c sign
  · decide

private theorem matching?_of_pattern {pattern : String} {p : Pattern}
    (read : Pattern.ofString? pattern = some p) :
    matching? ⟨action, pattern⟩ s = some (s.members.filter fun c => p.foundIn c.characters) :=
  congrArg (Option.map _) read

/-- A text of digits and colons selects the communities that have it in their notation. -/
theorem matching?_literal {part : String} (plain : ∀ c ∈ part.toList, c.isDigit ∨ c = ':')
    (short : part.toList.length ≤ 65536) : ∃ cs, matching? ⟨action, part⟩ s = some cs ∧
      s.Selects (fun c => part.toList <:+: (toString c).toList) cs := by
  obtain ⟨p, read, found⟩ := exists_literal (fun c member => not_mem_signs (plain c member)) short
  refine ⟨_, matching?_of_pattern read, s.selects_filter fun c => ?_⟩
  rw [found, Community.toList_toString]

/-- A text of digits and colons between the signs for both ends is a pattern for itself. -/
theorem exists_anchoredString {part : String} (plain : ∀ c ∈ part.toList, c.isDigit ∨ c = ':')
    (short : part.toList.length ≤ 65534) : ∃ p, Pattern.ofString? ("^" ++ part ++ "$") = some p ∧
      ∀ c : Community, p.foundIn c.characters = true ↔ toString c = part := by
  obtain ⟨p, read, found⟩ := exists_anchored (fun c member => not_mem_signs (plain c member)) short
  refine ⟨p, ?_, fun c => ?_⟩
  · rw [Pattern.ofString?, String.toList_append, String.toList_append]
    exact read
  · rw [found, ← Community.toList_toString, String.toList_inj]

/-- **Patterns select by the notation.** A line whose pattern is a short text of digits and colons
selects the members of a set that have the text in their notation, and between the signs for both
ends those whose notation it is; both in ascending order and once each. A notation belongs to one
community only. So the line with the notation of a community between these signs selects this
community if the set has it, and nothing otherwise. -/
theorem matching?_notation (s : CommunitySet) (action : LineAction) :
    (∀ part : String, (∀ c ∈ part.toList, c.isDigit ∨ c = ':') → part.length ≤ 100 →
      (∃ cs, matching? ⟨action, part⟩ s = some cs ∧
        s.Selects (fun c => part.toList <:+: (toString c).toList) cs) ∧
      ∃ cs, matching? ⟨action, "^" ++ part ++ "$"⟩ s = some cs ∧
        s.Selects (fun c => toString c = part) cs) ∧
    Function.Injective (toString : Community → String) ∧
    ∀ c : Community, matching? ⟨action, "^" ++ toString c ++ "$"⟩ s =
      some (if c ∈ s.members then [c] else []) := by
  refine ⟨fun part plain short => ⟨?_, ?_⟩, Community.toString_injective, fun c => ?_⟩
  · rw [← String.length_toList] at short
    exact matching?_literal plain (Nat.le_trans short (by decide))
  · rw [← String.length_toList] at short
    obtain ⟨p, read, found⟩ := exists_anchoredString plain (Nat.le_trans short (by decide))
    exact ⟨_, matching?_of_pattern read, s.selects_filter found⟩
  · have plain : ∀ x ∈ (toString c).toList, x.isDigit ∨ x = ':' := by
      rw [Community.toList_toString]
      exact fun _ => Community.isDigit_of_mem_characters
    have short : (toString c).toList.length ≤ 65534 := by
      rw [Community.toList_toString]
      exact Nat.le_trans c.length_characters_le (by decide)
    obtain ⟨p, read, found⟩ := exists_anchoredString plain short
    rw [matching?_of_pattern read, s.filter_eq_of_unique fun d =>
      (found d).trans Community.toString_injective.eq_iff]

/-- The communities `100:1`, `100:10` and `200:2`. -/
def hundreds : CommunitySet :=
  .ofList [⟨13107202⟩, ⟨6553610⟩, ⟨6553601⟩]

theorem matching?_notation_hundreds :
    (∀ c ∈ "0:1".toList, c.isDigit ∨ c = ':') ∧ "0:1".length ≤ 100 ∧
      (∃ cs, matching? ⟨.accept, "0:1"⟩ hundreds = some cs ∧
        ⟨6553610⟩ ∈ cs ∧ ⟨13107202⟩ ∉ cs ∧ cs.Pairwise fun a b => a.value < b.value) ∧
      matching? ⟨.accept, "^100:1$"⟩ hundreds = some [⟨6553601⟩] := by
  have plain : ∀ c ∈ "0:1".toList, c.isDigit ∨ c = ':' := by simp
  have short : "0:1".length ≤ 100 := by decide +kernel
  obtain ⟨parts, _, alone⟩ := matching?_notation hundreds .accept
  obtain ⟨cs, matched, selected⟩ := (parts "0:1" plain short).1
  refine ⟨plain, short, ⟨cs, matched, (selected.mem_iff _).2 ⟨by decide +kernel, ?_⟩,
    fun other => ?_, selected.ascending⟩, alone ⟨6553601⟩⟩
  · exact ⟨['1', '0'], ['0'], by decide +kernel⟩
  · -- The notation `200:2` has another digit behind the colon.
    have part := ((selected.mem_iff _).1 other).2
    revert part
    decide +kernel

end CommunityListLine

end ConfigFacts
