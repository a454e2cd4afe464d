import ConfigFacts.Json.Reader

/-!
# Strings are read back

A text between quotes ends at the quote behind it (`Json.readQuoted_ofString`) and stands for what
was written (`Quoted.text?_ofString`). Both walk over the text character by character, and a
character is written in one of three ways (`Quoted.Spelling`).
-/

namespace ConfigFacts

namespace Quoted

/-- The ways in which a character is written between quotes. -/
inductive Spelling (c : Char) : List Char → Prop where
  /-- The character itself. -/
  | plain (quote : c ≠ '"') (backslash : c ≠ '\\') (printed : 0x20 ≤ c.toNat) : Spelling c [c]
  /-- A letter behind a backslash. -/
  | letter {e : Char} (escape : escaped? e = some c) : Spelling c ['\\', e]
  /-- The number of a control character. -/
  | unit {h₁ h₂ h₃ h₄ : Char} (digits : unit? h₁ h₂ h₃ h₄ = some c.toNat)
      (control : c.toNat < 0x20) : Spelling c ['\\', 'u', h₁, h₂, h₃, h₄]

private theorem unit?_hexDigit {n : Nat} (small : n < 0x20) :
    unit? '0' '0' (hexDigit (n / 16)) (hexDigit (n % 16)) = some n :=
  (by decide : ∀ n : Fin 0x20, unit? '0' '0' (hexDigit (n / 16)) (hexDigit (n % 16)) = some n.val)
    ⟨n, small⟩

/-- A character is encoded by a spelling of it. -/
theorem spelling_encodeChar (c : Char) : Spelling c (encodeChar c) := by
  unfold encodeChar
  by_cases quote : c = '"'
  · subst quote
    exact .letter rfl
  by_cases backslash : c = '\\'
  · subst backslash
    exact .letter rfl
  simp only [quote, backslash, ↓reduceIte]
  repeat' split
  all_goals first
    | exact .letter (by subst_vars; rfl)
    | exact .unit (unit?_hexDigit ‹_›) ‹_›
    | exact .plain quote backslash (Nat.le_of_not_lt ‹_›)

section Decoding

variable {c : Char} {found rest : List Char}

private theorem decodeOnto_plain (backslash : c ≠ '\\') :
    decodeOnto found (c :: rest) = decodeOnto (c :: found) rest := by
  rw [decodeOnto]
  all_goals grind

private theorem decodeOnto_letter {e : Char} (escape : escaped? e = some c) :
    decodeOnto found ('\\' :: e :: rest) = decodeOnto (c :: found) rest := by
  have other : e ≠ 'u' := by
    rintro rfl
    cases escape
  rw [decodeOnto, escape]
  · rfl
  all_goals grind

/-- The number of a control character is no half of a pair, whatever follows it. -/
theorem decodeOnto_unit {h₁ h₂ h₃ h₄ : Char} (digits : unit? h₁ h₂ h₃ h₄ = some c.toNat)
    (control : c.toNat < 0x20) :
    decodeOnto found ('\\' :: 'u' :: h₁ :: h₂ :: h₃ :: h₄ :: rest) = decodeOnto (c :: found) rest := by
  have high : isHighSurrogate c.toNat = false := by
    simp [isHighSurrogate]
    omega
  have low : isLowSurrogate c.toNat = false := by
    simp [isLowSurrogate]
    omega
  rw [decodeOnto.eq_def]
  split <;> simp_all
  · grind
  · grind

private theorem decodeOnto_spelling {w : List Char} (spelled : Spelling c w) :
    decodeOnto found (w ++ rest) = decodeOnto (c :: found) rest := by
  cases spelled with
  | plain _ backslash _ => exact decodeOnto_plain backslash
  | letter escape => exact decodeOnto_letter escape
  | unit digits control => exact decodeOnto_unit digits control

end Decoding

private theorem decodeOnto_ofString (text found : List Char) :
    decodeOnto found (text.flatMap encodeChar) = some (found.reverse ++ text) := by
  induction text generalizing found with
  | nil => rw [List.flatMap_nil, decodeOnto, List.append_nil]
  | cons c rest ih =>
      rw [List.flatMap_cons, decodeOnto_spelling (spelling_encodeChar c), ih, List.reverse_cons,
        List.append_assoc, List.singleton_append]

/-- A written text stands for itself. -/
@[simp] theorem text?_ofString (s : String) : (ofString s).text? = some s := by
  unfold text? ofString
  rw [decodeOnto_ofString, Option.map_some, List.reverse_nil, List.nil_append, String.ofList_toList]

/-- Texts are told apart by their quotations. -/
theorem ofString_injective {s t : String} (same : ofString s = ofString t) : s = t := by
  have texts := congrArg text? same
  rw [text?_ofString, text?_ofString] at texts
  exact Option.some.inj texts

private theorem encodeChar_of_isDigit {c : Char} (digit : c.isDigit) : encodeChar c = [c] := by
  have other {d : Char} (special : d.isDigit = false) : c ≠ d := by
    rintro rfl
    rw [special] at digit
    cases digit
  have printed : ¬c.toNat < 0x20 := by
    have first : 48 ≤ c.toNat := (Char.isDigit_iff_toNat.1 digit).1
    omega
  unfold encodeChar
  rw [if_neg (other rfl), if_neg (other rfl), if_neg (other rfl), if_neg (other rfl),
    if_neg (other rfl), if_neg (other rfl), if_neg (other rfl), if_neg printed]

/-- Digits are written as they are. -/
theorem flatMap_encodeChar_of_isDigit {digits : List Char} (all : ∀ c ∈ digits, c.isDigit) :
    digits.flatMap encodeChar = digits := by
  induction digits with
  | nil => rfl
  | cons c rest ih =>
      obtain ⟨first, later⟩ := List.forall_mem_cons.1 all
      rw [List.flatMap_cons, encodeChar_of_isDigit first, ih later, List.singleton_append]

end Quoted

namespace Json

open Quoted

section Reading

variable {c : Char} {found rest : List Char}

private theorem readQuoted_spelling {w : List Char} (spelled : Spelling c w) :
    readQuoted found (w ++ rest) = readQuoted (w.reverse ++ found) rest := by
  cases spelled with
  | plain quote backslash printed =>
      show readQuoted found (c :: rest) = readQuoted (c :: found) rest
      rw [readQuoted, if_neg (by simp [backslash, printed])]
      all_goals grind
  | @letter e escape =>
      have other : e ≠ 'u' := by
        rintro rfl
        cases escape
      show readQuoted found ('\\' :: e :: rest) = readQuoted (e :: '\\' :: found) rest
      rw [readQuoted, escape, Option.isSome_some, if_pos rfl]
      grind
  | unit digits control =>
      simp [readQuoted, digits]

end Reading

private theorem readQuoted_encoded (text found rest : List Char) :
    readQuoted found (text.flatMap encodeChar ++ '"' :: rest) =
      some (⟨found.reverse ++ text.flatMap encodeChar⟩, rest) := by
  induction text generalizing found with
  | nil => rw [List.flatMap_nil, List.nil_append, readQuoted, List.append_nil]
  | cons c later ih =>
      rw [List.flatMap_cons, List.append_assoc, readQuoted_spelling (spelling_encodeChar c), ih,
        List.reverse_append, List.reverse_reverse, List.append_assoc]

/-- A text between quotes is read up to the closing quote. -/
theorem readQuoted_ofString (s : String) (rest : List Char) :
    readQuoted [] ((Quoted.ofString s).characters ++ '"' :: rest) =
      some (Quoted.ofString s, rest) :=
  readQuoted_encoded s.toList [] rest

end Json

end ConfigFacts
