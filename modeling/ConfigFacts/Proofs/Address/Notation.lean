import ConfigFacts.Proofs.Form.Lossless

/-!
# Dotted notation

Dotted notation is four octets between points, without zeros in front of an octet
(`Address.IsDotted`). An address is written in this way, and nothing else is read as an address, be
it a text or a string in a document (`Address.ofString?_bijective`).
-/

namespace ConfigFacts

namespace Address

/-- A number below 256 in decimal notation, which has a zero in front only if it is zero. -/
structure IsOctet (s : List Char) (n : Nat) : Prop where
  denotes : Text.Denotes s n
  unpadded : s.head? = some '0' → s = ['0']
  bounded : n < 256

/-- The octets of an address between points, the highest one first. -/
inductive IsDotted : List Char → Address → Prop where
  | mk {a : Address} {p q r s : List Char} {w x y z : Nat} (first : IsOctet p w)
      (second : IsOctet q x) (third : IsOctet r y) (fourth : IsOctet s z)
      (value : a.toNat = ((w * 256 + x) * 256 + y) * 256 + z) :
      IsDotted (p ++ '.' :: (q ++ '.' :: (r ++ '.' :: s))) a

/-- The digits of the numbers below 256, and no others, are read as octets. -/
theorem octet?_eq_some_iff {s : List Char} {n : Nat} :
    octet? s = some n ↔ n < 256 ∧ s = Nat.toDigits 10 n := by
  unfold octet?
  rw [Option.filter_eq_some_iff, decide_eq_true_eq]
  refine ⟨And.right, fun octet => ⟨?_, octet⟩⟩
  rw [octet.2, Text.natural?_toDigits]

private theorem isOctet_iff {s : List Char} {n : Nat} :
    IsOctet s n ↔ n < 256 ∧ s = Nat.toDigits 10 n := by
  constructor
  · rintro ⟨denotes, unpadded, bounded⟩
    exact ⟨bounded, Text.eq_toDigits_of_denotes denotes unpadded⟩
  · rintro ⟨bounded, rfl⟩
    refine ⟨Text.natural?_eq_some_iff.1 (Text.natural?_toDigits n), fun zero => ?_, bounded⟩
    rcases Nat.eq_zero_or_pos n with rfl | positive
    · rfl
    · obtain ⟨d, ds, digits, nonzero⟩ := Text.toDigits_eq_cons positive
      rw [digits] at zero
      exact absurd (Option.some.inj zero) nonzero

private theorem toNat_eq_octets (a : Address) :
    a.toNat = ((a.octet 0 * 256 + a.octet 1) * 256 + a.octet 2) * 256 + a.octet 3 := by
  have bound : a.toNat < 2 ^ 32 := a.bits.isLt
  simp only [octet, Nat.pow_eq]
  omega

/-- Four octets are those of the address that they make up. -/
theorem octets_eq {a : Address} {w x y z : Nat} (second : x < 256) (third : y < 256)
    (fourth : z < 256) (value : a.toNat = ((w * 256 + x) * 256 + y) * 256 + z) :
    a.octet 0 = w ∧ a.octet 1 = x ∧ a.octet 2 = y ∧ a.octet 3 = z := by
  have bound : a.toNat < 2 ^ 32 := a.bits.isLt
  simp only [octet, Nat.pow_eq]
  omega

/-- The dotted notation of an address is the text that is written for it. -/
theorem isDotted_iff {s : List Char} {a : Address} : IsDotted s a ↔ s = a.characters := by
  constructor
  · rintro ⟨first, second, third, fourth, value⟩
    obtain ⟨-, rfl⟩ := isOctet_iff.1 first
    obtain ⟨-, rfl⟩ := isOctet_iff.1 second
    obtain ⟨-, rfl⟩ := isOctet_iff.1 third
    obtain ⟨-, rfl⟩ := isOctet_iff.1 fourth
    obtain ⟨rfl, rfl, rfl, rfl⟩ := octets_eq second.bounded third.bounded fourth.bounded value
    simp [characters]
  · rintro rfl
    have octets (i : Nat) : IsOctet (Nat.toDigits 10 (a.octet i)) (a.octet i) :=
      isOctet_iff.2 ⟨a.octet_lt i, rfl⟩
    have dotted := IsDotted.mk (octets 0) (octets 1) (octets 2) (octets 3) a.toNat_eq_octets
    simpa [characters] using dotted

/-- What is read as an address is dotted notation. -/
theorem isDotted_of_ofCharacters? {s : List Char} {a : Address}
    (read : ofCharacters? s = some a) : IsDotted s a := by
  unfold ofCharacters? at read
  split at read
  · next p q r t pieces =>
      simp only [Option.bind_eq_bind, Option.bind_eq_some_iff] at read
      obtain ⟨w, first, x, second, y, third, z, fourth, value⟩ := read
      obtain rfl := Option.some.inj value
      have joined : s = p ++ '.' :: (q ++ '.' :: (r ++ '.' :: t)) :=
        calc s = ['.'].intercalate (s.splitOn '.') := (List.intercalate_splitOn '.').symm
          _ = p ++ '.' :: (q ++ '.' :: (r ++ '.' :: t)) := by simp [pieces, List.intercalate]
      have octet {s : List Char} {n : Nat} (found : octet? s = some n) : IsOctet s n :=
        isOctet_iff.2 (octet?_eq_some_iff.1 found)
      have belowW := (octet first).bounded
      have belowX := (octet second).bounded
      have belowY := (octet third).bounded
      have belowZ := (octet fourth).bounded
      rw [joined]
      refine .mk (octet first) (octet second) (octet third) (octet fourth) ?_
      simp only [ofNat, toNat, BitVec.toNat_ofNat]
      omega
  · cases read

/-- An address is read from its own text and from no other. -/
theorem ofString?_eq_some_iff {s : String} {a : Address} :
    ofString? s = some a ↔ s = toString a := by
  constructor
  · intro read
    have written := isDotted_iff.1 (isDotted_of_ofCharacters? read)
    exact String.toList_inj.1 (written.trans String.toList_ofList.symm)
  · rintro rfl
    exact ofString?_toString a

section Documents

variable {a : Address}

/-- A value is read as an address when it is a string that is read as this address. -/
theorem ofJson?_eq_some_iff {room : Nat} {value : Json} :
    Form.ofJson? room value = some a ↔
      ∃ q : Quoted, value = .string q ∧ q.text? = some (toString a) := by
  have strings (s : String) : Form.ofJson? room value = some s ↔
      ∃ q : Quoted, value = .string q ∧ q.text? = some s := by
    cases value with
    | string q =>
        refine ⟨fun text => ⟨q, rfl, text⟩, ?_⟩
        rintro ⟨_, ⟨⟩, text⟩
        exact text
    | _ => exact ⟨nofun, nofun⟩
  have through : Form.ofJson? room value = some a ↔
      ∃ s : String, Form.ofJson? room value = some s ∧ ofString? s = some a :=
    Option.bind_eq_some_iff
  simp [through, strings, ofString?_eq_some_iff]

/-- An address is read from a JSON string as from its text. -/
theorem read?_ofString (s : String) : Json.read? Address (Json.ofString s).text = ofString? s := by
  have text : Form.ofJson? Json.depthLimit (Json.ofString s) = ofString? s := by
    change (Quoted.ofString s).text?.bind ofString? = ofString? s
    rw [Quoted.text?_ofString, Option.bind_some]
  have legible : (Json.ofString s).Legible 0 := .string s
  unfold Json.read?
  rw [Json.parse?_text legible, Option.bind_eq_bind, Option.bind_some, text]

end Documents

/-- **Addresses and their notations are in bijection.** A text is read as an address exactly if it
is what the address is written as, which is exactly its dotted notation. A value in a document is
read as an address exactly if it is a string with such a text, so that the document of a string is
read as the string is and the document of an address as the address. -/
theorem ofString?_bijective (s : String) (a : Address) :
    (ofString? s = some a ↔ s = toString a) ∧ (s = toString a ↔ IsDotted s.toList a) ∧
      (∀ (room : Nat) (value : Json), Form.ofJson? room value = some a ↔
        ∃ q : Quoted, value = .string q ∧ q.text? = some (toString a)) ∧
      Json.read? Address (Json.ofString s).text = ofString? s ∧
      Json.read? Address (toJson a).text = some a := by
  have dotted : s = toString a ↔ IsDotted s.toList a := by
    have characters : (toString a).toList = a.characters := String.toList_ofList
    rw [isDotted_iff, ← String.toList_inj, characters]
  have same : Json.read? Address (toJson a).text = some a := by
    rw [← ofString?_toString a]
    exact read?_ofString (toString a)
  exact ⟨ofString?_eq_some_iff, dotted, fun _ _ => ofJson?_eq_some_iff, read?_ofString s, same⟩

end Address

end ConfigFacts
