import ConfigFacts.Json.Form
import ConfigFacts.Proofs.Json.Numeral
import ConfigFacts.Proofs.Json.Quoted
import Mathlib.Data.List.DropRight

/-!
# Texts of values

A text spells a value when it is read as this value in front of anything that may follow one
(`Json.Spells`). Blanks may stand in front of a value (`Json.Spells.blank`), and arrays and records
are spelled by the texts of what they hold between commas, with blanks around each of them
(`Json.spells_array`, `Json.spells_record`).
-/

namespace ConfigFacts.Json

section Space

variable {space s t : List Char}

private theorem skipSpace_cons {c : Char} (token : isSpace c = false) (rest : List Char) :
    skipSpace (c :: rest) = c :: rest := by
  unfold skipSpace
  rw [List.dropWhile_cons_of_neg (by simp [token])]

private theorem isSpace_of_isDigit {c : Char} (digit : c.isDigit) : isSpace c = false := by
  simp only [isSpace, Bool.or_eq_false_iff, decide_eq_false_iff_not]
  refine ⟨⟨⟨?_, ?_⟩, ?_⟩, ?_⟩ <;> rintro rfl <;> cases digit

private theorem skipSpace_append (blank : ∀ c ∈ space, isSpace c) (rest : List Char) :
    skipSpace (space ++ rest) = skipSpace rest :=
  List.dropWhile_append_of_pos blank

private theorem skipSpace_skipSpace (s : List Char) : skipSpace (skipSpace s) = skipSpace s :=
  List.dropWhile_idempotent ..

/-! The reader skips the blanks in front of what it reads. -/

private theorem readValue_congr (same : skipSpace s = skipSpace t) (fuel : Nat) :
    readValue fuel s = readValue fuel t := by
  cases fuel with
  | zero => rfl
  | succ fuel => rw [readValue, readValue, same]

private theorem readElements_congr (same : skipSpace s = skipSpace t) (fuel : Nat)
    (found : List Json) :
    readElements fuel found s = readElements fuel found t := by
  cases fuel with
  | zero => rfl
  | succ fuel => rw [readElements, readElements, readValue_congr same]

private theorem readMembers_congr (same : skipSpace s = skipSpace t) (fuel : Nat)
    (found : List (Quoted × Json)) : readMembers fuel found s = readMembers fuel found t := by
  cases fuel with
  | zero => rfl
  | succ fuel => rw [readMembers, readMembers, same]

end Space

/-- A text that is read as a value, given enough fuel, whatever may follow a value behind it. -/
def Spells (written : List Char) (value : Json) : Prop :=
  ∀ fuel rest, 2 * written.length ≤ fuel + 1 → Follows rest →
    readValue fuel (written ++ rest) = some (value, rest)

/-- The texts of a member: its name and a text of its value, with blanks in front. -/
inductive SpellsMember : List Char → Quoted × Json → Prop where
  | intro {front body : List Char} {value : Json} (blank : ∀ c ∈ front, isSpace c) (name : String)
    (spelled : Spells body value) :
    SpellsMember (front ++ (quotedCharacters (.ofString name) ++ ':' :: body))
      (.ofString name, value)

private theorem follows_cons {c : Char} (closing : c = ',' ∨ c = ']' ∨ c = '\x7d') (rest :
    List Char) :
    Follows (c :: rest) := by
  rintro _ ⟨⟩
  rcases closing with same | same | same <;> simp [same]

private theorem follows_append {space : List Char} (blank : ∀ c ∈ space, isSpace c)
    {rest : List Char}
    (follows : Follows rest) : Follows (space ++ rest) := by
  cases space with
  | nil => exact follows
  | cons c space =>
      rintro _ ⟨⟩
      exact .inr (.inr (.inr (blank c List.mem_cons_self)))

namespace Spells

variable {written : List Char} {value : Json}

/-- A value may have space in front. -/
theorem blank {space : List Char} (spelled : Spells written value)
    (blank : ∀ c ∈ space, isSpace c) : Spells (space ++ written) value := by
  intro fuel rest enough follows
  rw [List.length_append] at enough
  have same : skipSpace (space ++ written ++ rest) = skipSpace (written ++ rest) := by
    rw [List.append_assoc, skipSpace_append blank]
  rw [readValue_congr same]
  exact spelled fuel rest (by omega) follows

/-- A text of a value starts with something that does not end an array. -/
theorem exists_start (spelled : Spells written value) :
    ∃ c cs, c ≠ ']' ∧ ∀ behind, skipSpace (written ++ behind) = c :: (cs ++ behind) := by
  have read := spelled (2 * written.length + 1) [] (by omega) nofun
  rw [List.append_nil, readValue] at read
  cases start : skipSpace written with
  | nil =>
      rw [start] at read
      cases read
  | cons c cs =>
      refine ⟨c, cs, ?_, fun behind => ?_⟩
      · rintro rfl
        rw [start] at read
        cases read
      · unfold skipSpace at start ⊢
        rw [List.dropWhile_append, start]
        rfl

private theorem ne_nil (spelled : Spells written value) : written ≠ [] := by
  rintro rfl
  obtain ⟨c, cs, -, start⟩ := spelled.exists_start
  cases start []

/-- It is enough to read a text that is not empty with fuel that is not zero. -/
theorem of_succ (nonempty : written ≠ [])
    (read : ∀ fuel rest, 2 * written.length ≤ fuel + 2 → Follows rest →
      readValue (fuel + 1) (written ++ rest) = some (value, rest)) : Spells written value := by
  intro fuel rest enough follows
  have positive := List.length_pos_iff.2 nonempty
  obtain ⟨fuel, rfl⟩ : ∃ less, fuel = less + 1 := ⟨fuel - 1, by omega⟩
  exact read fuel rest enough follows

end Spells

section Containers

variable {space : List Char} {elements : List Json} {write : Json → List Char}
  {members : List (Quoted × Json)} {entry : Quoted × Json} {writeMember : Quoted × Json → List Char}

private theorem readElements_intercalate (each : ∀ value ∈ elements, Spells (write value) value)
    (nonempty : elements ≠ []) (blank : ∀ c ∈ space, isSpace c) {fuel : Nat} (found : List Json)
    (rest : List Char) (enough : 2 * ([','].intercalate (elements.map write)).length ≤ fuel) :
    readElements fuel found ([','].intercalate (elements.map write) ++ (space ++ ']' :: rest)) =
      some (found.reverse ++ elements, rest) := by
  induction elements generalizing fuel found with
  | nil => exact absurd rfl nonempty
  | cons value later ih =>
      obtain ⟨first, each⟩ := List.forall_mem_cons.1 each
      have positive := List.length_pos_iff.2 first.ne_nil
      cases later with
      | nil =>
          rw [List.map_singleton, List.intercalate_singleton] at enough ⊢
          obtain ⟨fuel, rfl⟩ : ∃ less, fuel = less + 1 := ⟨fuel - 1, by omega⟩
          have read := first fuel (space ++ ']' :: rest) (by omega)
            (follows_append blank (follows_cons (by decide) rest))
          rw [readElements, read]
          simp only [skipSpace_append blank, skipSpace_cons (c := ']') rfl, List.reverse_cons]
      | cons next others =>
          rw [List.map_cons, List.map_cons, List.intercalate_cons_cons, ← List.map_cons] at enough ⊢
          simp only [List.length_append, List.length_singleton] at enough
          obtain ⟨fuel, rfl⟩ : ∃ less, fuel = less + 1 := ⟨fuel - 1, by omega⟩
          have read := first fuel
            (',' :: ([','].intercalate ((next :: others).map write) ++ (space ++ ']' :: rest)))
            (by omega) (follows_cons (by decide) _)
          have remaining := @ih each (by simp) fuel (value :: found) (by omega)
          rw [List.append_assoc, List.append_assoc, List.singleton_append, readElements, read]
          simp only [skipSpace_cons (c := ',') rfl, remaining, List.reverse_cons,
            List.append_assoc, List.singleton_append]

private theorem SpellsMember.exists_start {written : List Char}
    (spelled : SpellsMember written entry) :
    ∃ cs, ∀ behind, skipSpace (written ++ behind) = '"' :: (cs ++ behind) := by
  obtain @⟨front, text, value, blank, name, body⟩ := spelled
  refine ⟨(Quoted.ofString name).characters ++ ['"'] ++ ':' :: text, fun behind => ?_⟩
  rw [List.append_assoc, skipSpace_append blank]
  rfl

private theorem SpellsMember.ne_nil {written : List Char} (spelled : SpellsMember written entry) :
    written ≠ [] := by
  rintro rfl
  obtain ⟨cs, start⟩ := spelled.exists_start
  cases start []

/-- Behind a member stands a comma and the other members, or the end of the object. -/
theorem SpellsMember.readMembers_append {written : List Char} (spelled : SpellsMember written entry)
    {fuel : Nat} {found : List (Quoted × Json)} {behind rest : List Char} (follows : Follows behind)
    (enough : 2 * written.length ≤ fuel + 1) :
    (skipSpace behind = ',' :: rest →
      readMembers (fuel + 1) found (written ++ behind) = readMembers fuel (entry :: found) rest) ∧
    (skipSpace behind = '\x7d' :: rest →
      readMembers (fuel + 1) found (written ++ behind) =
        some ((entry :: found).reverse, rest)) := by
  obtain ⟨blank, name, body⟩ := spelled
  simp only [List.length_append, List.length_cons] at enough
  have read := body fuel behind (by omega) follows
  refine ⟨fun next => ?_, fun next => ?_⟩ <;>
    simp only [readMembers, List.append_assoc, skipSpace_append blank, quotedCharacters,
      List.cons_append, List.nil_append, skipSpace_cons (c := '"') rfl, readQuoted_ofString,
      skipSpace_cons (c := ':') rfl, read, next]

private theorem readMembers_intercalate
    (each : ∀ entry ∈ members, SpellsMember (writeMember entry) entry)
    (nonempty : members ≠ []) (blank : ∀ c ∈ space, isSpace c) {fuel : Nat}
    (found : List (Quoted × Json)) (rest : List Char)
    (enough : 2 * ([','].intercalate (members.map writeMember)).length ≤ fuel) :
    readMembers fuel found
        ([','].intercalate (members.map writeMember) ++ (space ++ '\x7d' :: rest)) =
      some (found.reverse ++ members, rest) := by
  induction members generalizing fuel found with
  | nil => exact absurd rfl nonempty
  | cons entry later ih =>
      obtain ⟨first, each⟩ := List.forall_mem_cons.1 each
      have positive := List.length_pos_iff.2 first.ne_nil
      cases later with
      | nil =>
          rw [List.map_singleton, List.intercalate_singleton] at enough ⊢
          obtain ⟨fuel, rfl⟩ : ∃ less, fuel = less + 1 := ⟨fuel - 1, by omega⟩
          have next : skipSpace (space ++ '\x7d' :: rest) = '\x7d' :: rest :=
            (skipSpace_append blank _).trans (skipSpace_cons rfl rest)
          have follows := follows_append blank (follows_cons (.inr (.inr rfl)) rest)
          rw [(first.readMembers_append follows (by omega)).2 next, List.reverse_cons]
      | cons next others =>
          rw [List.map_cons, List.map_cons, List.intercalate_cons_cons, ← List.map_cons] at enough ⊢
          simp only [List.length_append, List.length_singleton] at enough
          obtain ⟨fuel, rfl⟩ : ∃ less, fuel = less + 1 := ⟨fuel - 1, by omega⟩
          have remaining := @ih each (by simp) fuel (entry :: found) (by omega)
          have follows (s : List Char) : Follows (',' :: s) := follows_cons (.inl rfl) s
          rw [List.append_assoc, List.append_assoc, List.singleton_append,
            (first.readMembers_append (follows _) (by omega)).1 (skipSpace_cons rfl _), remaining,
            List.reverse_cons, List.append_assoc, List.singleton_append]

private theorem exists_intercalate (piece : List Char) (pieces : List (List Char)) :
    ∃ tail, [','].intercalate (piece :: pieces) = piece ++ tail := by
  cases pieces with
  | nil => exact ⟨[], by rw [List.intercalate_singleton, List.append_nil]⟩
  | cons next others => exact ⟨_, by rw [List.intercalate_cons_cons, List.append_assoc]⟩

/-- Elements between commas in brackets are read as an array, with blanks anywhere between them. -/
theorem spells_array (each : ∀ value ∈ elements, Spells (write value) value)
    (nonempty : elements ≠ []) (blank : ∀ c ∈ space, isSpace c) :
    Spells ('[' :: ([','].intercalate (elements.map write) ++ (space ++ [']'])))
      (.array elements) := by
  refine .of_succ (by simp) fun fuel rest enough _ => ?_
  have bound : 2 * ([','].intercalate (elements.map write)).length ≤ fuel := by
    simp only [List.length_cons, List.length_append] at enough
    omega
  have read := readElements_intercalate each nonempty blank [] rest bound
  obtain ⟨value, later, rfl⟩ := List.exists_cons_of_ne_nil nonempty
  obtain ⟨c, cs, open', start⟩ := (each value List.mem_cons_self).exists_start
  obtain ⟨tail, split⟩ := exists_intercalate (write value) (later.map write)
  rw [← readElements_congr (skipSpace_skipSpace _), List.map_cons, split, List.append_assoc,
    start] at read
  rw [List.map_cons, split, List.cons_append, List.append_assoc, List.append_assoc,
    List.append_assoc, List.singleton_append, readValue, skipSpace_cons rfl]
  simp only [start]
  split
  · next shape =>
      cases shape
      exact absurd rfl open'
  · rw [read]
    rfl

/-- Members between commas in braces are read as an object, with blanks anywhere between them. -/
theorem spells_object (each : ∀ entry ∈ members, SpellsMember (writeMember entry) entry)
    (nonempty : members ≠ []) (blank : ∀ c ∈ space, isSpace c) :
    Spells ('\x7b' :: ([','].intercalate (members.map writeMember) ++ (space ++ ['\x7d'])))
      (.object members) := by
  refine .of_succ (by simp) fun fuel rest enough _ => ?_
  have bound : 2 * ([','].intercalate (members.map writeMember)).length ≤ fuel := by
    simp only [List.length_cons, List.length_append] at enough
    omega
  have read := readMembers_intercalate each nonempty blank [] rest bound
  obtain ⟨entry, later, rfl⟩ := List.exists_cons_of_ne_nil nonempty
  obtain ⟨cs, start⟩ := (each entry List.mem_cons_self).exists_start
  obtain ⟨tail, split⟩ := exists_intercalate (writeMember entry) (later.map writeMember)
  rw [← readMembers_congr (skipSpace_skipSpace _), List.map_cons, split, List.append_assoc,
    start] at read
  rw [List.map_cons, split, List.cons_append, List.append_assoc, List.append_assoc,
    List.append_assoc, List.singleton_append, readValue, skipSpace_cons rfl]
  simp only [start]
  show Option.map _ (readMembers fuel [] _) = _
  rw [read]
  rfl

end Containers

/-- The members of a record are read with the same blanks around each name and its value. -/
theorem spells_record {front gap space : List Char} (blankFront : ∀ c ∈ front, isSpace c)
    (blankGap : ∀ c ∈ gap, isSpace c) (blankSpace : ∀ c ∈ space, isSpace c)
    {members : List (String × Json)} {write : Json → List Char}
    (each : ∀ entry ∈ members, Spells (write entry.2) entry.2) (nonempty : members ≠ []) :
    Spells ('\x7b' :: ([','].intercalate
        ((members.map fun (name, value) => (Quoted.ofString name, value)).map fun entry =>
          front ++ (quotedCharacters entry.1 ++ ':' :: (gap ++ write entry.2))) ++
        (space ++ ['\x7d'])))
      (.record members) := by
  refine spells_object (List.forall_mem_map.2 fun entry member => ?_) (by simpa using nonempty)
    blankSpace
  exact .intro blankFront entry.1 ((each entry member).blank blankGap)

/-- An array without elements may be spelled without space. -/
theorem spells_empty_array : Spells ['[', ']'] (.array []) :=
  .of_succ (by decide) fun _ _ _ _ => rfl

/-- A record without members may be spelled without space. -/
theorem spells_empty_record : Spells ['\x7b', '\x7d'] (.record []) :=
  .of_succ (by decide) fun _ _ _ _ => rfl

/-! ### Leaves -/

theorem spells_null : Spells "null".toList .null :=
  .of_succ (by decide) fun _ _ _ _ => rfl

/-- A truth value is spelled by its name. -/
theorem spells_bool (b : Bool) : Spells (compact (.bool b)) (.bool b) := by
  cases b <;> exact .of_succ (by decide) fun _ _ _ _ => rfl

/-- A number is spelled by the characters of its numeral. -/
theorem spells_number {n : Numeral} (digits : ∀ c ∈ n.fraction, c.isDigit) :
    Spells (numeralCharacters n) (.number n) := by
  obtain ⟨c, cs, start, first⟩ := exists_numeralCharacters n
  refine .of_succ (by simp [start]) fun fuel rest _ follows => ?_
  have token : isSpace c = false := by
    rcases first with rfl | digit
    · rfl
    · exact isSpace_of_isDigit digit
  have read := readNumeral_append digits follows
  rw [start, List.cons_append] at read ⊢
  rw [readValue, skipSpace_cons token]
  -- Only the last case of the reader starts with a sign or a digit.
  split
  case h_7 => rw [read, Option.map_some]
  all_goals
    rename_i shape
    obtain ⟨rfl, -⟩ := List.cons.inj shape
    rcases first with sign | digit
    · cases sign
    · cases digit

/-- A string is spelled by the quotation of its text. -/
theorem spells_string (s : String) :
    Spells (quotedCharacters (.ofString s)) (.ofString s) := by
  refine .of_succ (by simp [quotedCharacters]) fun fuel rest _ _ => ?_
  simp [quotedCharacters, readValue, skipSpace_cons (c := '"') rfl, readQuoted_ofString, ofString]

end ConfigFacts.Json
