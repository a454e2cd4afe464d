import ConfigFacts.Interface
import ConfigFacts.Proofs.Text.Digits
import Mathlib.Data.List.Forall2

/-!
# Names of VLAN interfaces

The name of an interface encodes a VLAN when nothing is left of it but `vlan` and a number of 32
bits, its points and the case of its letters apart (`Interface.vlanNumber?_eq_some_iff`). A character
outside of ASCII keeps a name from encoding one, whatever it becomes in lower case
(`Interface.vlanNumber?_lowered`).
-/

namespace ConfigFacts

namespace Text

private theorem toNat_toLower (c : Char) :
    c.toLower.toNat = if 65 ≤ c.toNat ∧ c.toNat ≤ 90 then c.toNat + 32 else c.toNat := by
  unfold Char.toLower
  split
  next capital =>
    have bounds : 65 ≤ c.toNat ∧ c.toNat ≤ 90 := capital
    change (c.val + 32).toNat = _
    rw [if_pos bounds, UInt32.toNat_add]
    exact Nat.mod_eq_of_lt (show c.toNat + 32 < 2 ^ 32 by omega)
  next other =>
    have bounds : ¬(65 ≤ c.toNat ∧ c.toNat ≤ 90) := other
    rw [if_neg bounds]

/-- A small letter is the lower case of itself and of its capital. -/
theorem toLower_eq_iff {c small capital : Char} (letter : 97 ≤ small.toNat ∧ small.toNat ≤ 122)
    (pair : capital.toNat + 32 = small.toNat) : c.toLower = small ↔ c ∈ [small, capital] := by
  rw [List.mem_pair, ← Char.toNat_inj, ← Char.toNat_inj, ← Char.toNat_inj, toNat_toLower]
  split <;> omega

/-- Digits and points have no case. -/
theorem toLower_eq_iff_of_lt {c d : Char} (sign : d.toNat < 65) : c.toLower = d ↔ c = d := by
  rw [← Char.toNat_inj, ← Char.toNat_inj, toNat_toLower]
  split <;> omega

private theorem isDigit_toLower (c : Char) : c.toLower.isDigit = c.isDigit := by
  rw [Bool.eq_iff_iff, Char.isDigit_iff_toNat, Char.isDigit_iff_toNat, toNat_toLower]
  change _ ∧ _ ≤ 57 ↔ _ ∧ _ ≤ 57
  split <;> omega

private theorem toLower_of_isDigit {c : Char} (digit : c.isDigit) : c.toLower = c := by
  have bound : c.toNat ≤ 57 := (Char.isDigit_iff_toNat.1 digit).2
  exact (toLower_eq_iff_of_lt (by omega)).2 rfl

private theorem toLower_toLower (c : Char) : c.toLower.toLower = c.toLower := by
  rw [← Char.toNat_inj, toNat_toLower, toNat_toLower]
  split_ifs <;> omega

/-- A text that denotes a number has no letters. -/
theorem denotes_map_toLower {s : List Char} {n : Nat} :
    Denotes (s.map Char.toLower) n ↔ Denotes s n := by
  have same (digits : ∀ c ∈ s, c.isDigit) : s.map Char.toLower = s :=
    (List.map_congr_left fun c member => toLower_of_isDigit (digits c member)).trans (List.map_id s)
  constructor
  · intro denotes
    have digits : ∀ c ∈ s, c.isDigit := fun c member =>
      isDigit_toLower c ▸ denotes.digits _ (List.mem_map_of_mem member)
    rwa [same digits] at denotes
  · intro denotes
    rwa [same denotes.digits]

end Text

namespace Interface

/-- The letters of `vlan`, each in both cases. -/
def vlanLetters : List (List Char) :=
  [['v', 'V'], ['l', 'L'], ['a', 'A'], ['n', 'N']]

/-- Without its points a name is `vlan` in any case and a number of 32 bits, perhaps behind
zeros. -/
def NamesVlan (name : String) (n : Nat) : Prop :=
  ∃ letters digits, name.toList.filter (· ≠ '.') = letters ++ digits ∧
    List.Forall₂ (· ∈ ·) letters vlanLetters ∧ Text.Denotes digits n ∧ n ≤ 4294967295

/-- A character that no name of a VLAN has. -/
def IsForeign (c : Char) : Prop :=
  c ≠ '.' ∧ c.isDigit = false ∧ ∀ both ∈ vlanLetters, c ∉ both

/-- What a character becomes in lower case: one of ASCII its small form, and any other one a text in
which no character is one that names of VLANs have. -/
def LowersTo (c : Char) (text : List Char) : Prop :=
  if c.toNat < 128 then text = [c.toLower] else text ≠ [] ∧ ∀ d ∈ text, IsForeign d

variable {name : String} {n : Nat}

/-- A text is spelled in small letters when each of its letters is one of the two cases. -/
theorem map_toLower_eq_iff_of_cases {small : List Char} {cases : List (List Char)}
    (pairs : List.Forall₂ (fun l both => ∀ c : Char, c.toLower = l ↔ c ∈ both) small cases)
    (letters : List Char) :
    letters.map Char.toLower = small ↔ List.Forall₂ (· ∈ ·) letters cases := by
  induction pairs generalizing letters with
  | nil => rw [List.map_eq_nil_iff, List.forall₂_nil_right_iff]
  | cons both _ ih =>
      cases letters with
      | nil => exact ⟨nofun, nofun⟩
      | cons c rest => rw [List.map_cons, List.cons.injEq, List.forall₂_cons, both, ih]

private theorem map_toLower_eq_iff (letters : List Char) :
    letters.map Char.toLower = ['v', 'l', 'a', 'n'] ↔ List.Forall₂ (· ∈ ·) letters vlanLetters :=
  map_toLower_eq_iff_of_cases
    (.cons (fun _ => Text.toLower_eq_iff (by decide) (by decide)) <|
      .cons (fun _ => Text.toLower_eq_iff (by decide) (by decide)) <|
      .cons (fun _ => Text.toLower_eq_iff (by decide) (by decide)) <|
      .cons (fun _ => Text.toLower_eq_iff (by decide) (by decide)) .nil) letters

/-- The points can be left out before the letters are made small. -/
theorem filter_map_toLower (s : List Char) :
    (s.map Char.toLower).filter (· ≠ '.') = (s.filter (· ≠ '.')).map Char.toLower := by
  rw [List.filter_map]
  congr 1
  refine List.filter_congr fun c _ => ?_
  exact decide_eq_decide.2 (not_congr (Text.toLower_eq_iff_of_lt (by decide)))

private theorem vlanNumber?_eq_some_iff_lowered :
    vlanNumber? name = some n ↔ ∃ digits,
      (name.toList.filter (· ≠ '.')).map Char.toLower = ['v', 'l', 'a', 'n'] ++ digits ∧
        Text.Denotes digits n ∧ n ≤ 4294967295 := by
  unfold vlanNumber?
  rw [filter_map_toLower]
  split
  next digits found =>
    rw [Option.filter_eq_some_iff, Text.natural?_eq_some_iff, decide_eq_true_eq,
      show UInt32.size = 4294967295 + 1 from rfl, Nat.lt_succ_iff]
    constructor
    · exact fun denotes => ⟨digits, found, denotes⟩
    · rintro ⟨other, same, denotes⟩
      obtain rfl : digits = other := by simpa using found.symm.trans same
      exact denotes
  next other =>
    refine ⟨nofun, ?_⟩
    rintro ⟨digits, found, _⟩
    exact absurd found (other digits)

/-- A number is read from the names of its VLAN and from no others. -/
theorem vlanNumber?_eq_some_iff_namesVlan : vlanNumber? name = some n ↔ NamesVlan name n := by
  rw [vlanNumber?_eq_some_iff_lowered]
  constructor
  · rintro ⟨digits, lowered, denotes, small⟩
    obtain ⟨letters, numerals, split, first, rfl⟩ := List.map_eq_append_iff.1 lowered
    exact ⟨letters, numerals, split, (map_toLower_eq_iff letters).1 first,
      Text.denotes_map_toLower.1 denotes, small⟩
  · rintro ⟨letters, digits, split, first, denotes, small⟩
    refine ⟨digits.map Char.toLower, ?_, Text.denotes_map_toLower.2 denotes, small⟩
    rw [split, List.map_append, (map_toLower_eq_iff letters).2 first]

/-! ### Characters outside of ASCII -/

private theorem isForeign_of_ge {c : Char} (outside : 128 ≤ c.toNat) : IsForeign c := by
  have different {d : Char} (ascii : d.toNat < 128) : c ≠ d := by
    rintro rfl
    omega
  refine ⟨different (by decide), ?_, ?_⟩
  · rw [Bool.eq_false_iff]
    intro digit
    have bound : c.toNat ≤ 57 := (Char.isDigit_iff_toNat.1 digit).2
    omega
  · have ascii : ∀ both ∈ vlanLetters, ∀ d ∈ both, d.toNat < 128 := by simp [vlanLetters]
    exact fun both listed member => different (ascii both listed c member) rfl

private theorem exists_case_of_mem {letters : List Char}
    (spelled : List.Forall₂ (· ∈ ·) letters vlanLetters) {c : Char} (member : c ∈ letters) :
    ∃ both ∈ vlanLetters, c ∈ both := by
  generalize vlanLetters = cases at spelled
  induction spelled with
  | nil => cases member
  | cons first _ ih =>
      rcases List.mem_cons.1 member with rfl | later
      · exact ⟨_, List.mem_cons_self, first⟩
      · obtain ⟨both, listed, found⟩ := ih later
        exact ⟨both, List.mem_cons_of_mem _ listed, found⟩

/-- A name with a foreign character is the name of no VLAN. -/
theorem vlanNumber?_of_isForeign {c : Char} (member : c ∈ name.toList) (foreign : IsForeign c) :
    vlanNumber? name = none := by
  rw [Option.eq_none_iff_forall_ne_some]
  intro n found
  obtain ⟨letters, digits, split, spelled, denotes, _⟩ :=
    vlanNumber?_eq_some_iff_namesVlan.1 found
  obtain ⟨notPoint, notDigit, notLetter⟩ := foreign
  have kept : c ∈ name.toList.filter (· ≠ '.') :=
    List.mem_filter.2 ⟨member, decide_eq_true notPoint⟩
  rw [split] at kept
  rcases List.mem_append.1 kept with letter | digit
  · obtain ⟨both, listed, found⟩ := exists_case_of_mem spelled letter
    exact notLetter both listed found
  · rw [denotes.digits c digit] at notDigit
    cases notDigit

/-- In lower case a text of ASCII has its small letters, and any other one still has a character that
no name of a VLAN has. -/
theorem flatten_of_lowersTo {s : List Char} {texts : List (List Char)}
    (lowers : List.Forall₂ LowersTo s texts) : texts.flatten = s.map Char.toLower ∨
      (∃ c ∈ s, IsForeign c) ∧ ∃ d ∈ texts.flatten, IsForeign d := by
  induction lowers with
  | nil => exact .inl rfl
  | @cons c text s texts first _ ih =>
      by_cases ascii : c.toNat < 128
      · obtain rfl : text = [c.toLower] := by rwa [LowersTo, if_pos ascii] at first
        refine ih.imp (congrArg (c.toLower :: ·)) ?_
        rintro ⟨⟨c', member, foreign⟩, d, found, foreign'⟩
        exact ⟨⟨c', List.mem_cons_of_mem _ member, foreign⟩,
          d, List.mem_cons_of_mem _ found, foreign'⟩
      · rw [LowersTo, if_neg ascii] at first
        obtain ⟨nonempty, foreign⟩ := first
        obtain ⟨d, member⟩ := List.exists_mem_of_ne_nil text nonempty
        exact .inr ⟨⟨c, List.mem_cons_self, isForeign_of_ge (Nat.le_of_not_lt ascii)⟩, d,
          List.mem_append_left _ member, foreign d member⟩

/-- A name in lower case has the VLAN of the name. -/
theorem vlanNumber?_lowered {texts : List (List Char)}
    (lowers : List.Forall₂ LowersTo name.toList texts) :
    vlanNumber? (String.ofList texts.flatten) = vlanNumber? name := by
  rcases flatten_of_lowersTo lowers with small | ⟨⟨c, member, foreign⟩, d, found, foreign'⟩
  · unfold vlanNumber?
    rw [String.toList_ofList, small, List.map_map]
    congr 3
    exact funext Text.toLower_toLower
  · rw [vlanNumber?_of_isForeign member foreign]
    refine vlanNumber?_of_isForeign ?_ foreign'
    rwa [String.toList_ofList]

/-! ### Names that are written for a VLAN -/

/-- Something that spells `vlan`, points apart, in front of a number. -/
theorem namesVlan_append {front : String} {letters : List Char}
    (written : front.toList.filter (· ≠ '.') = letters)
    (spelled : List.Forall₂ (· ∈ ·) letters vlanLetters) (zeros : Nat) (small : n ≤ 4294967295) :
    NamesVlan (front ++ String.ofList (Text.padded zeros n)) n := by
  have denotes := Text.denotes_padded zeros n
  have points : (Text.padded zeros n).filter (· ≠ '.') = Text.padded zeros n := by
    refine List.filter_eq_self.2 fun c member => decide_eq_true ?_
    rintro rfl
    cases denotes.digits _ member
  refine ⟨letters, Text.padded zeros n, ?_, spelled, denotes, small⟩
  rw [String.toList_append, String.toList_ofList, List.filter_append, written, points]

/-- **Names of VLANs are recognized exactly.** A name has the number of a VLAN exactly when without
its points it is `vlan`, in any case, and decimal digits of this number, which has 32 bits; otherwise
it has none. It is the same for the name in lower case, as long as the characters outside of ASCII
become none of those that such names have. The names that are written for a number, with a point or
without and with any number of zeros, have this number. -/
theorem vlanNumber?_eq_some_iff (name : String) :
    (∀ n, vlanNumber? name = some n ↔ NamesVlan name n) ∧
      (vlanNumber? name = none ↔ ∀ n, ¬ NamesVlan name n) ∧
      (∀ texts, List.Forall₂ LowersTo name.toList texts →
        vlanNumber? (String.ofList texts.flatten) = vlanNumber? name) ∧
      ∀ zeros n, n ≤ 4294967295 →
        vlanNumber? ("Vlan" ++ String.ofList (Text.padded zeros n)) = some n ∧
          vlanNumber? ("vlan." ++ String.ofList (Text.padded zeros n)) = some n := by
  refine ⟨fun n => vlanNumber?_eq_some_iff_namesVlan, ?_, fun texts => vlanNumber?_lowered,
    fun zeros n small => ⟨?_, ?_⟩⟩
  · simp only [Option.eq_none_iff_forall_ne_some, ne_eq, vlanNumber?_eq_some_iff_namesVlan]
  · refine vlanNumber?_eq_some_iff_namesVlan.2 (namesVlan_append rfl ?_ zeros small)
    exact (map_toLower_eq_iff _).1 rfl
  · refine vlanNumber?_eq_some_iff_namesVlan.2 (namesVlan_append rfl ?_ zeros small)
    exact (map_toLower_eq_iff _).1 rfl

/-- A name with points and capitals, one with a sign whose small letter is `k`, and one with zeros in
front of the largest number. -/
theorem vlanNumber?_eq_some_iff_of_scattered :
    NamesVlan "v.LaN0.10" 10 ∧ vlanNumber? "v.LaN0.10" = some 10 ∧
      List.Forall₂ LowersTo "VLAN\u212A1".toList [['v'], ['l'], ['a'], ['n'], ['k'], ['1']] ∧
      vlanNumber? "vlank1" = vlanNumber? "VLAN\u212A1" ∧
      vlanNumber? "vlan.004294967295" = some 4294967295 := by
  have names : NamesVlan "v.LaN0.10" 10 :=
    ⟨['v', 'L', 'a', 'N'], ['0', '1', '0'], rfl, (map_toLower_eq_iff _).1 rfl,
      ⟨List.cons_ne_nil _ _, List.all_eq_true.1 rfl, rfl⟩, by decide⟩
  have lowers : List.Forall₂ LowersTo "VLAN\u212A1".toList
      [['v'], ['l'], ['a'], ['n'], ['k'], ['1']] := by
    show List.Forall₂ LowersTo ['V', 'L', 'A', 'N', '\u212A', '1'] _
    simp [LowersTo, IsForeign, vlanLetters]
  obtain ⟨_, _, lowered, written⟩ := vlanNumber?_eq_some_iff "VLAN\u212A1"
  exact ⟨names, ((vlanNumber?_eq_some_iff "v.LaN0.10").1 10).2 names, lowers, lowered _ lowers,
    (written 2 4294967295 (Nat.le_refl _)).2⟩

end Interface

end ConfigFacts
