import ConfigFacts.Proofs.Double.Exact
import ConfigFacts.Proofs.Double.Numeral
import ConfigFacts.Proofs.Json.Document
import ConfigFacts.Proofs.SortedMap

/-!
# Forms that are read back

A value is recovered when its form is legible and reads as the value again, as soon as there is room
for the containers inside each other (`Form.Recovers`). A type all of whose values are recovered
is `Form.Lossless`; a double is recovered if its digits are read as this double.

A record is recovered when its fields are (`Form.Recovers.record`), a list and a map when their
elements are.
-/

namespace ConfigFacts

namespace Form

variable {α : Type} [Form α]

/-- A value whose form is legible and is read as the value, with room for the given depth. -/
structure Recovers (depth : Nat) (a : α) : Prop where
  /-- The form can be written and read. -/
  legible : (toJson a).Legible depth
  /-- The form is read as the value. -/
  read {room : Nat} (enough : depth ≤ room) : Form.ofJson? room (toJson a) = some a

/-- Types all of whose values are recovered. -/
class Lossless (α : Type) [Form α] (depth : outParam Nat) : Prop where
  /-- Every value is recovered. -/
  recovers (a : α) : Recovers depth a

/-- Types none of whose values is written as `null`. -/
class Solid (α : Type) [Form α] : Prop where
  /-- A written value is there. -/
  toJson_ne_null (a : α) : toJson a ≠ .null

/-- What is recovered at a depth is recovered at larger ones. -/
theorem Recovers.mono {depth bound : Nat} {a : α} (recovered : Recovers depth a)
    (below : depth ≤ bound) : Recovers bound a where
  legible := recovered.legible.mono below
  read enough := recovered.read (Nat.le_trans below enough)

/-- A document is read from the value that it is parsed to. -/
theorem read?_of_parse? {document : String} {value : Json} {a : α}
    (parsed : Json.parse? document = some value)
    (read : Form.ofJson? Json.depthLimit value = some a) : Json.read? α document = some a :=
  Option.bind_eq_some_iff.2 ⟨value, parsed, read⟩

/-- The document of a recovered value is read as this value. -/
theorem Recovers.read?_text {depth : Nat} {a : α} (recovered : Recovers depth a)
    (below : depth ≤ Json.depthLimit) : Json.read? α (toJson a).text = some a :=
  read?_of_parse? (Json.parse?_text recovered.legible) (recovered.read below)

@[simp] theorem ofJson?_toJson {depth room : Nat} [Lossless α depth] (a : α)
    (enough : depth ≤ room) : Form.ofJson? room (toJson a) = some a :=
  (Lossless.recovers a).read enough

@[simp] theorem legible_toJson {depth bound : Nat} [Lossless α depth] (a : α)
    (below : depth ≤ bound) : (toJson a).Legible bound :=
  (Lossless.recovers a).legible.mono below

end Form

section Leaves

open Form

/-- A natural number below a bound is read back. -/
theorem Json.natural?_ofNat {n bound : Nat} (small : n < bound) :
    Json.natural? bound (.ofNat n) = some n := by
  simp [Json.natural?, Json.ofNat, Numeral.natural?, Numeral.ofNat, small]

/-- A natural number of 64 bits is legible. -/
theorem Json.legible_ofNat {n : Nat} (small : n < UInt64.size) : (Json.ofNat n).Legible 0 :=
  .number nofun (Double.isSome_ofNumeral?_ofNat small)

instance : Lossless String 0 where
  recovers s := ⟨.string s, fun _ => Quoted.text?_ofString s⟩

instance : Lossless Bool 0 where
  recovers b := ⟨.bool b, fun _ => rfl⟩

instance : Lossless UInt8 0 where
  recovers n := {
    legible := Json.legible_ofNat (Nat.lt_trans n.toNat_lt (by decide))
    read _ := by
      show (Json.natural? UInt8.size (.ofNat n.toNat)).map UInt8.ofNat = some n
      rw [Json.natural?_ofNat n.toNat_lt, Option.map_some, UInt8.ofNat_toNat] }

instance : Lossless UInt32 0 where
  recovers n := {
    legible := Json.legible_ofNat (Nat.lt_trans n.toNat_lt (by decide))
    read _ := by
      show (Json.natural? UInt32.size (.ofNat n.toNat)).map UInt32.ofNat = some n
      rw [Json.natural?_ofNat n.toNat_lt, Option.map_some, UInt32.ofNat_toNat] }

/-- The digits of a double are read as this double. -/
def Double.ReadsBack (x : Double) : Prop :=
  Double.ofNumeral? (Json.doubleNotation.numeral x) = some x

/-- Reading rounds more than once, so the digits of some finite doubles are those of a neighbour. -/
theorem Double.exists_misread :
    ∃ x y : Double, x.isFinite ∧ ofNumeral? (Json.doubleNotation.numeral x) = some y ∧ y ≠ x :=
  ⟨.ofNat 9007199254740991, .ofNat 9007199254740990, by decide +kernel, by decide +kernel,
    by decide +kernel⟩

/-- Natural numbers are read back if they stay below `2 ^ 53` with the zero behind their point. -/
theorem Double.sound_ofNat {n : Nat} (small : n * 10 < 2 ^ 53) :
    (ofNat n).isFinite ∧ (ofNat n).ReadsBack := by
  have below : n < 2 ^ 53 := by omega
  refine ⟨isFinite_ofNat (Nat.lt_trans below (by decide)), ?_⟩
  unfold ReadsBack
  rcases Nat.eq_zero_or_pos n with rfl | nonzero
  · decide +kernel
  · rw [numeral_ofNat nonzero below (by decide) (by decide), ofNumeral?_tenths nonzero small]

/-- A finite double is legible if its numeral is read as some double. -/
theorem Double.legible_toJson {x y : Double} (finite : x.isFinite)
    (digits : ofNumeral? (Json.doubleNotation.numeral x) = some y) (depth : Nat) :
    (toJson x).Legible depth := by
  show (Json.ofDouble x).Legible depth
  rw [Json.ofDouble, if_pos finite]
  refine .number (fun _ => Notation.isDigit_of_mem_fraction) ?_
  rw [digits, Option.isSome_some]

/-- A finite double is read as whatever its digits are read as. -/
theorem Double.ofJson?_toJson {x y : Double} (finite : x.isFinite)
    (digits : ofNumeral? (Json.doubleNotation.numeral x) = some y) (room : Nat) :
    Form.ofJson? room (toJson x) = some y := by
  show Form.ofJson? room (Json.ofDouble x) = some y
  rw [Json.ofDouble, if_pos finite]
  exact digits

/-- A finite double that reads back is recovered. -/
theorem Double.recovers {x : Double} (finite : x.isFinite) (back : x.ReadsBack) :
    Recovers 0 x where
  legible := legible_toJson finite back 0
  read _ := ofJson?_toJson finite back _

end Leaves

namespace Form

section Containers

variable {α : Type} [Form α] {depth : Nat}

/-- What is there is read as a value of the type. -/
theorem ofJson?_option {room : Nat} {value : Json} (there : value ≠ .null) :
    Form.ofJson? (α := Option α) room value = (Form.ofJson? room value).map some := by
  cases value with
  | null => exact absurd rfl there
  | _ => rfl

/-- An optional value is recovered if the value is. -/
theorem Recovers.option {a? : Option α} [Solid α] (each : ∀ a ∈ a?, Recovers depth a) :
    Recovers depth a? := by
  cases a? with
  | none => exact ⟨.null, fun _ => rfl⟩
  | some a =>
      have recovered := each a rfl
      refine ⟨recovered.legible, fun {room} enough => ?_⟩
      show Form.ofJson? (α := Option α) room (toJson a) = some (some a)
      rw [ofJson?_option (Solid.toJson_ne_null a), recovered.read enough, Option.map_some]

instance [Solid α] [Lossless α depth] : Lossless (Option α) depth where
  recovers _ := .option fun a _ => Lossless.recovers a

/-- A list is read if each of its elements is. -/
theorem mapM_map_of_reads {β γ δ : Type} {read : γ → Option β} {write : δ → γ} {shown : δ → β}
    {ds : List δ} (each : ∀ d ∈ ds, read (write d) = some (shown d)) :
    (ds.map write).mapM read = some (ds.map shown) := by
  induction ds with
  | nil => rfl
  | cons d rest ih =>
      obtain ⟨first, later⟩ := List.forall_mem_cons.1 each
      simp [first, ih later]

private theorem mapM_map_of_forall {β γ : Type} {read : γ → Option β} {write : β → γ} {bs : List β}
    (each : ∀ b ∈ bs, read (write b) = some b) : (bs.map write).mapM read = some bs :=
  (mapM_map_of_reads each).trans (congrArg some (List.map_id bs))

/-- A list is recovered if its elements are. -/
theorem Recovers.list {as : List α} (each : ∀ a ∈ as, Recovers depth a) :
    Recovers (depth + 1) as where
  legible := .array fun value member => by
    obtain ⟨a, present, rfl⟩ := List.mem_map.1 member
    exact (each a present).legible
  read {room} enough := by
    obtain ⟨room, rfl⟩ := Nat.exists_eq_succ_of_ne_zero (Nat.ne_zero_of_lt enough)
    exact mapM_map_of_forall fun a member => (each a member).read (Nat.le_of_succ_le_succ enough)

instance [Lossless α depth] : Lossless (List α) (depth + 1) where
  recovers _ := .list fun a _ => Lossless.recovers a

section Maps

variable {κ : Type} [Ord κ] (write : κ → String) (read : Quoted → Option κ) {m : SortedMap κ α}

private theorem legible_entries (each : ∀ e ∈ m.entries, Recovers depth e.2) :
    (Json.record (m.entries.map fun (k, a) => (write k, toJson a))).Legible (depth + 1) :=
  .record fun entry member => by
    obtain ⟨e, present, rfl⟩ := List.mem_map.1 member
    exact (each e present).legible

private theorem mapM_entries {room : Nat} (keys : ∀ k, read (.ofString (write k)) = some k)
    (each : ∀ e ∈ m.entries, Recovers depth e.2) (enough : depth ≤ room) :
    (((m.entries.map fun (k, a) => (write k, toJson a)).map fun (name, value) =>
        (Quoted.ofString name, value)).mapM fun (name, value) => do
      return (← read name, ← Form.ofJson? room value)) = some m.entries := by
  rw [List.map_map]
  refine mapM_map_of_forall fun e member => ?_
  simp [keys, (each e member).read enough]

end Maps

/-- A dictionary is recovered if its values are. -/
theorem Recovers.dictionary {m : SortedMap String α} (each : ∀ e ∈ m.entries, Recovers depth e.2) :
    Recovers (depth + 1) m where
  legible := legible_entries (fun name => name) each
  read {room} enough := by
    obtain ⟨room, rfl⟩ := Nat.exists_eq_succ_of_ne_zero (Nat.ne_zero_of_lt enough)
    have entries := mapM_entries (fun name => name) Quoted.text? Quoted.text?_ofString each
      (Nat.le_of_succ_le_succ enough)
    exact Option.bind_eq_some_iff.2 ⟨m.entries, entries, congrArg some m.ofList_entries⟩

private theorem number?_toString (n : UInt64) :
    (Quoted.ofString (toString n.toNat)).number? = some n := by
  have written : (Quoted.ofString (toString n.toNat)).characters = Nat.toDigits 10 n.toNat := by
    rw [Nat.toString_eq_ofList_toDigits, Quoted.ofString, String.toList_ofList]
    exact Quoted.flatMap_encodeChar_of_isDigit fun _ => Text.isDigit_of_mem_toDigits
  have whole := Json.readWhole_toDigits n.toNat [] (by rintro _ ⟨⟩)
  rw [List.append_nil] at whole
  unfold Quoted.number?
  rw [written, whole]
  simp [n.toNat_lt]

/-- A dictionary with numbers for keys is recovered if its values are. -/
theorem Recovers.numbered {m : SortedMap UInt64 α} (each : ∀ e ∈ m.entries, Recovers depth e.2) :
    Recovers (depth + 1) m where
  legible := legible_entries (fun n => toString n.toNat) each
  read {room} enough := by
    obtain ⟨room, rfl⟩ := Nat.exists_eq_succ_of_ne_zero (Nat.ne_zero_of_lt enough)
    have entries := mapM_entries (fun n : UInt64 => toString n.toNat) Quoted.number?
      number?_toString each (Nat.le_of_succ_le_succ enough)
    exact Option.bind_eq_some_iff.2 ⟨m.entries, entries, congrArg some m.ofList_entries⟩

instance [Lossless α depth] : Lossless (SortedMap String α) (depth + 1) where
  recovers _ := .dictionary fun e _ => Lossless.recovers e.2

instance [Lossless α depth] : Lossless (SortedMap UInt64 α) (depth + 1) where
  recovers _ := .numbered fun e _ => Lossless.recovers e.2

end Containers

section Records

open Json

variable {names : List String} {members : List (String × Json)} {room : Nat}

/-- Members are read with the names that they are written with. -/
theorem namedMembers?_record (members : List (String × Json)) :
    namedMembers? (members.map fun (name, value) => (Quoted.ofString name, value)) = some members :=
  mapM_map_of_forall fun entry _ => by simp

/-- The fields among the members of a record. -/
def known (names : List String) (members : List (String × Json)) : List (String × Json) :=
  members.filter fun entry => names.contains entry.1

/-- The fields of a record are its known members, none of them twice. -/
theorem fields?_record_iff {f : Fields} :
    (Json.record members).fields? names (room + 1) = some f ↔
      ((known names members).map Prod.fst).Nodup ∧ ⟨known names members, room⟩ = f := by
  unfold Json.record fields?
  dsimp only
  rw [namedMembers?_record, Option.bind_eq_bind, Option.bind_some]
  unfold known
  simp

/-- A record written with exactly its fields has these fields. -/
theorem fields?_record (fits : members.map Prod.fst = names) (distinct : names.Nodup) :
    (Json.record members).fields? names (room + 1) = some ⟨members, room⟩ := by
  have all : known names members = members :=
    List.filter_eq_self.2 fun entry member =>
      List.contains_iff_mem.2 (fits ▸ List.mem_map_of_mem member)
  rw [fields?_record_iff, all, fits]
  exact ⟨distinct, rfl⟩

/-- A written record is read as what is built from its fields. -/
theorem ofJson?_record {α : Type} [Form α] {a b : α} {build : Fields → Option α}
    (written : toJson a = .record members)
    (reads : ∀ room value, Form.ofJson? room value = (fields? names room value).bind build)
    (fits : members.map Prod.fst = names) (distinct : names.Nodup)
    (built : build ⟨members, room⟩ = some b) : Form.ofJson? (room + 1) (toJson a) = some b := by
  rw [written, reads, fields?_record fits distinct, Option.bind_some]
  exact built

/-- A record is recovered when it is built again from its fields. -/
theorem Recovers.record {α : Type} [Form α] {a : α} {depth : Nat} {build : Fields → Option α}
    (written : toJson a = .record members)
    (reads : ∀ room value, Form.ofJson? room value = (fields? names room value).bind build)
    (fits : members.map Prod.fst = names) (distinct : names.Nodup)
    (each : ∀ entry ∈ members, entry.2.Legible depth)
    (built : ∀ room, depth ≤ room → build ⟨members, room⟩ = some a) : Recovers (depth + 1) a where
  legible := written ▸ .record each
  read {room} enough := by
    obtain ⟨room, rfl⟩ := Nat.exists_eq_succ_of_ne_zero (Nat.ne_zero_of_lt enough)
    exact ofJson?_record written reads fits distinct (built room (Nat.le_of_succ_le_succ enough))

end Records

section Variants

open Json

variable {tag kind : String} {room : Nat}

/-- A record with one member is a variant. -/
theorem variant?_record (kind : String) (payload : Json) :
    variant? (.record [(kind, payload)]) = some (kind, payload) := by
  simp [variant?, Json.record]

/-- The members without the tag. -/
def untagged (tag : String) (members : List (String × Json)) : List (String × Json) :=
  members.filter fun entry => entry.1 ≠ tag

/-- A record is cut into its tag and the other members. -/
theorem partition_record (tag : String) (members : List (String × Json)) :
    ((members.map fun (name, value) => (Quoted.ofString name, value)).partition fun (name, _) =>
        name.text? = some tag) =
      ((members.filter fun entry => entry.1 = tag).map fun (name, value) =>
          (Quoted.ofString name, value),
        (untagged tag members).map fun (name, value) => (Quoted.ofString name, value)) := by
  rw [List.partition_eq_filter_filter, List.filter_map, List.filter_map]
  unfold untagged
  congr 3 <;> funext entry <;> simp

/-- The tag of a record is found wherever it stands. -/
theorem tagged?_record {members : List (String × Json)}
    (legible : (Json.record members).Legible room)
    (single : (members.filter fun entry => entry.1 = tag) = [(tag, .ofString kind)]) :
    tagged? tag room (.record members) = some (kind, .record (untagged tag members)) := by
  unfold tagged?
  rw [if_pos legible.isPlain]
  unfold Json.record
  dsimp only
  rw [partition_record, single]
  simp [ofString]

/-- A tagged record is recovered when its variant is built again from its fields. -/
theorem Recovers.tagged {α : Type} [Form α] {a : α} {depth : Nat} {names : List String}
    {members : List (String × Json)} {read : Nat → String × Json → Option α}
    {build : Fields → Option α}
    (written : toJson a = .record ((tag, .ofString kind) :: members))
    (reads : ∀ room value, Form.ofJson? room value = (tagged? tag room value).bind (read room))
    (variant : ∀ room value, read room (kind, value) = (fields? names room value).bind build)
    (fits : members.map Prod.fst = names) (distinct : (tag :: names).Nodup)
    (each : ∀ entry ∈ members, entry.2.Legible depth)
    (built : ∀ room, depth ≤ room → build ⟨members, room⟩ = some a) : Recovers (depth + 1) a := by
  have legible : (toJson a).Legible (depth + 1) :=
    written ▸ .record (List.forall_mem_cons.2 ⟨.string kind, each⟩)
  obtain ⟨fresh, distinct⟩ := List.nodup_cons.1 distinct
  refine ⟨legible, fun {room} enough => ?_⟩
  obtain ⟨room, rfl⟩ := Nat.exists_eq_succ_of_ne_zero (Nat.ne_zero_of_lt enough)
  have others : ∀ entry ∈ members, entry.1 ≠ tag := fun entry member same =>
    fresh (fits ▸ same ▸ List.mem_map_of_mem member)
  have single : (((tag, Json.ofString kind) :: members).filter fun entry => entry.1 = tag) =
      [(tag, .ofString kind)] := by
    simpa using others
  have rest : untagged tag ((tag, Json.ofString kind) :: members) = members := by
    simpa [untagged] using others
  have found := tagged?_record (written ▸ legible.mono enough) single
  rw [rest] at found
  rw [written, reads, found, Option.bind_some, variant, fields?_record fits distinct,
    Option.bind_some]
  exact built room (Nat.le_of_succ_le_succ enough)

end Variants

section Names

variable {α : Type} {v : Vocabulary α}

/-- A string is read as the word that it is. -/
theorem ofJson?_ofString (v : Vocabulary α) (name : String) :
    v.ofJson? (.ofString name) = v.meaning? name := by
  simp [Vocabulary.ofJson?, Vocabulary.readWith, Json.ofString]

/-- A tagged value is the word that its tag is. -/
theorem ofTagged?_of_lookup {fields : Json.Fields} {field name : String}
    (found : fields.entries.lookup field = some (.ofString name)) :
    v.ofTagged? fields field = v.meaning? name := by
  simp [Vocabulary.ofTagged?, Vocabulary.readWith, found, Json.ofString]

/-- A type of names is lossless when every name means what it is written for. -/
theorem Lossless.ofNames [Form α] {nameOf : α → String}
    (written : ∀ a, toJson a = .ofString (nameOf a))
    (reads : ∀ room value, Form.ofJson? room value = v.ofJson? value)
    (means : ∀ a, v.meaning? (nameOf a) = some a) : Lossless α 0 where
  recovers a := {
    legible := written a ▸ .string (nameOf a)
    read _ := by rw [written, reads, ofJson?_ofString, means] }

end Names

end Form

end ConfigFacts
