import ConfigFacts.Proofs.Json.Spelling

/-!
# Documents are read back

The two documents of a legible value, the compact one and the indented one, parse to that value
(`Json.parse?_text`, `Json.parse?_indentedText`). A value is legible when its numbers have digits
behind the point and its strings and names are written texts; `Json.Legible` also bounds how many
containers it has inside each other. With room for them all of a legible value can be read
(`Json.Legible.isPlain`).
-/

namespace ConfigFacts.Json

/-- The values that are read back, with at most so many containers inside each other. -/
inductive Legible : (depth : Nat) → Json → Prop where
  | null {depth : Nat} : Legible depth .null
  | bool {depth : Nat} (b : Bool) : Legible depth (.bool b)
  | number {depth : Nat} {n : Numeral} (digits : ∀ c ∈ n.fraction, c.isDigit)
      (double : (Double.ofNumeral? n).isSome) : Legible depth (.number n)
  | string {depth : Nat} (s : String) : Legible depth (.ofString s)
  | array {depth : Nat} {elements : List Json} (each : ∀ value ∈ elements, Legible depth value) :
      Legible (depth + 1) (.array elements)
  | record {depth : Nat} {members : List (String × Json)}
      (each : ∀ entry ∈ members, Legible depth entry.2) : Legible (depth + 1) (.record members)

/-! ### The two forms of a document -/

/-- What is written for a list when there are commas between its elements. -/
theorem eq_intercalate {α : Type} {write : List α → List Char} {writeOne : α → List Char}
    (nil : write [] = []) (single : ∀ a, write [a] = writeOne a)
    (cons : ∀ a b rest, write (a :: b :: rest) = writeOne a ++ ',' :: write (b :: rest))
    (as : List α) : write as = [','].intercalate (as.map writeOne) := by
  induction as with
  | nil => exact nil
  | cons a later ih =>
      cases later with
      | nil => rw [List.map_singleton, List.intercalate_singleton, single]
      | cons b rest => simp [cons, ih]

private theorem compactElements_eq (elements : List Json) :
    compactElements elements = [','].intercalate (elements.map compact) :=
  eq_intercalate rfl (fun _ => rfl) (fun _ _ _ => rfl) elements

private theorem compactMembers_eq (members : List (Quoted × Json)) :
    compactMembers members = [','].intercalate (members.map fun entry =>
      quotedCharacters entry.1 ++ ':' :: compact entry.2) :=
  eq_intercalate rfl (fun _ => rfl) (fun _ _ _ => by simp [compactMembers]) members

private theorem indentedElements_eq (depth : Nat) (elements : List Json) :
    indentedElements depth elements =
      [','].intercalate (elements.map fun value => newLine depth ++ indented depth value) :=
  eq_intercalate rfl (fun _ => rfl) (fun _ _ _ => by simp [indentedElements]) elements

private theorem indentedMembers_eq (depth : Nat) (members : List (Quoted × Json)) :
    indentedMembers depth members = [','].intercalate (members.map fun entry =>
      newLine depth ++ (quotedCharacters entry.1 ++ ':' :: ([' '] ++ indented depth entry.2))) :=
  eq_intercalate rfl (fun _ => rfl) (fun _ _ _ => by simp [indentedMembers]) members

private theorem isSpace_of_mem_newLine {depth : Nat} : ∀ c ∈ newLine depth, isSpace c = true := by
  intro c member
  rcases List.mem_cons.1 member with rfl | blank
  · rfl
  · rw [List.eq_of_mem_replicate blank]
    rfl

namespace Legible

variable {depth : Nat} {value : Json}

/-- A legible value is read from its compact form. -/
theorem spells_compact (legible : Legible depth value) : Spells value.compact value := by
  have none : ∀ c ∈ ([] : List Char), isSpace c = true := List.forall_mem_nil _
  induction legible with
  | null => exact spells_null
  | bool b => exact spells_bool b
  | number digits _ => exact spells_number digits
  | string s => exact spells_string s
  | @array _ elements _ ih =>
      by_cases empty : elements = []
      · subst empty
        exact spells_empty_array
      · have spelled := spells_array ih empty none
        rwa [← compactElements_eq] at spelled
  | @record _ members _ ih =>
      by_cases empty : members = []
      · subst empty
        exact spells_empty_record
      · have spelled := spells_record none none none ih empty
        simp only [List.nil_append] at spelled
        rwa [← compactMembers_eq] at spelled

/-- A legible value is read from its indented form at every depth. -/
theorem spells_indented (legible : Legible depth value) (column : Nat) :
    Spells (value.indented column) value := by
  have line (column : Nat) : ∀ c ∈ newLine column, isSpace c = true := isSpace_of_mem_newLine
  induction legible generalizing column with
  | null => exact spells_null
  | bool b =>
      have same : indented column (.bool b) = compact (.bool b) := by cases b <;> rfl
      exact same ▸ spells_bool b
  | number digits _ => exact spells_number digits
  | string s => exact spells_string s
  | @array _ elements _ ih =>
      cases elements with
      | nil => exact spells_empty_array
      | cons value later =>
          have each := fun value member => (ih value member (column + 1)).blank (line (column + 1))
          have spelled := spells_array each (by simp) (line column)
          rwa [← indentedElements_eq] at spelled
  | @record _ members _ ih =>
      cases members with
      | nil => exact spells_empty_record
      | cons entry later =>
          have each := fun entry member => ih entry member (column + 1)
          have gap : ∀ c ∈ [' '], isSpace c = true := List.forall_mem_singleton.2 rfl
          have spelled := spells_record (line (column + 1)) gap (line column) each (by simp)
          rwa [← indentedMembers_eq] at spelled

end Legible

/-- A text that spells a value is parsed to it. -/
theorem parse?_of_spells {written : List Char} {value : Json} (spelled : Spells written value) :
    parse? (String.ofList written) = some value := by
  have read := spelled (2 * written.length + 1) [] (by omega) nofun
  rw [List.append_nil] at read
  unfold parse?
  rw [String.toList_ofList]
  simp [read, skipSpace]

/-- The compact document of a legible value parses to this value. -/
theorem parse?_text {depth : Nat} {value : Json} (legible : Legible depth value) :
    parse? value.text = some value :=
  parse?_of_spells legible.spells_compact

/-- The indented document of a legible value parses to this value. -/
theorem parse?_indentedText {depth : Nat} {value : Json} (legible : Legible depth value) :
    parse? value.indentedText = some value :=
  parse?_of_spells (legible.spells_indented 0)

namespace Legible

variable {depth : Nat} {value : Json}

/-- What is legible at a depth is legible at larger ones. -/
theorem mono {bound : Nat} (legible : Legible depth value) (below : depth ≤ bound) :
    Legible bound value := by
  induction legible generalizing bound with
  | null => exact .null
  | bool b => exact .bool b
  | number digits double => exact .number digits double
  | string s => exact .string s
  | array _ ih =>
      obtain ⟨bound, rfl⟩ := Nat.exists_eq_succ_of_ne_zero (Nat.ne_zero_of_lt below)
      exact .array fun value member => ih value member (Nat.le_of_succ_le_succ below)
  | record _ ih =>
      obtain ⟨bound, rfl⟩ := Nat.exists_eq_succ_of_ne_zero (Nat.ne_zero_of_lt below)
      exact .record fun entry member => ih entry member (Nat.le_of_succ_le_succ below)

private theorem arePlain_of_forall {room : Nat} {elements : List Json}
    (each : ∀ value ∈ elements, value.isPlain room) : arePlain room elements := by
  induction elements with
  | nil => rfl
  | cons value rest ih =>
      obtain ⟨first, later⟩ := List.forall_mem_cons.1 each
      simp [arePlain, first, ih later]

private theorem arePlainMembers_of_forall {room : Nat} {members : List (String × Json)}
    (each : ∀ entry ∈ members, entry.2.isPlain room) :
    arePlainMembers room (members.map fun (name, value) => (.ofString name, value)) := by
  induction members with
  | nil => rfl
  | cons entry rest ih =>
      obtain ⟨first, later⟩ := List.forall_mem_cons.1 each
      simp [arePlainMembers, first, ih later]

/-- All of a legible value can be read, if there is room for it. -/
theorem isPlain (legible : Legible depth value) : value.isPlain depth := by
  induction legible with
  | null => rfl
  | bool b => rfl
  | number _ double => exact double
  | string s => simp [Json.isPlain, ofString]
  | array _ ih => simp [Json.isPlain, arePlain_of_forall ih]
  | record _ ih => simp [Json.isPlain, Json.record, arePlainMembers_of_forall ih]

end Legible

end ConfigFacts.Json
