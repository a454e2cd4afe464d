import ConfigFacts.Proofs.Form.Shape
import Mathlib.Logic.Relation

/-!
# Forms that tolerate edits

Reading tolerates the edits of a shape when whatever a document is read as, an edited one is read
as, too (`Form.Tolerates`). For a record it is enough that its fields tolerate them: what is read
from the fields of a record (`Json.Fields`) is read from those of the edited one
(`Form.EditedFields`), where a field that is gone had its default. Tagged records are records once
their tag has been found.
-/

namespace ConfigFacts

section Lookup

variable {α : Type} {name other : String} {a a' : α} {entries before after : List (String × α)}

private theorem lookup_eq_none_of_not_mem (absent : name ∉ entries.map Prod.fst) :
    entries.lookup name = none :=
  List.lookup_eq_none_iff.2 fun _ member =>
    bne_iff_ne.2 fun same => absent (same ▸ List.mem_map_of_mem member)

private theorem mem_map_fst_of_lookup (found : entries.lookup name = some a) :
    name ∈ entries.map Prod.fst := by
  obtain ⟨before, after, rfl, _⟩ := List.lookup_eq_some_iff.1 found
  simp

private theorem lookup_append_cons_self (fresh : name ∉ before.map Prod.fst) :
    (before ++ (name, a) :: after).lookup name = some a := by
  rw [List.lookup_append, lookup_eq_none_of_not_mem fresh, List.lookup_cons_self, Option.none_or]

private theorem lookup_append_cons_of_ne (different : other ≠ name) :
    (before ++ (name, a) :: after).lookup other = (before ++ after).lookup other := by
  rw [List.lookup_append, List.lookup_append, List.lookup_cons, beq_eq_false_iff_ne.2 different]

private theorem nodup_append_cons_iff :
    ((before ++ (name, a) :: after).map Prod.fst).Nodup ↔
      name ∉ (before ++ after).map Prod.fst ∧ ((before ++ after).map Prod.fst).Nodup := by
  rw [(List.perm_middle.map Prod.fst).nodup_iff, List.map_cons, List.nodup_cons]

private theorem lookup_of_perm {entries' : List (String × α)} (same : entries.Perm entries')
    (distinct : (entries.map Prod.fst).Nodup) : entries.lookup name = entries'.lookup name := by
  induction same with
  | nil => rfl
  | cons entry _ ih =>
      rw [List.lookup_cons, List.lookup_cons, ih (List.nodup_cons.1 distinct).2]
  | swap entry entry' rest =>
      have different : entry'.1 ≠ entry.1 := by
        rintro same
        exact (List.nodup_cons.1 distinct).1 (same ▸ List.mem_cons_self)
      rw [List.lookup_cons, List.lookup_cons, List.lookup_cons, List.lookup_cons]
      by_cases first : name = entry.1
      · subst first
        simp [beq_eq_false_iff_ne.2 different.symm]
      · simp [beq_eq_false_iff_ne.2 first]
  | trans first _ ih ih' =>
      exact (ih distinct).trans (ih' ((first.map Prod.fst).nodup_iff.1 distinct))

end Lookup

namespace Form

/-- What one reading gives, another one gives, too. -/
def Below {β : Type} (m m' : Option β) : Prop :=
  ∀ b, m = some b → m' = some b

namespace Below

variable {β γ : Type} {m m' : Option β}

theorem refl (m : Option β) : Below m m :=
  fun _ => id

/-- A result stays the same if its first part and each step behind it do. -/
theorem bind {k k' : β → Option γ} (first : Below m m') (next : ∀ b, Below (k b) (k' b)) :
    Below (m.bind k) (m'.bind k') := by
  intro c read
  obtain ⟨b, found, rest⟩ := Option.bind_eq_some_iff.1 read
  exact Option.bind_eq_some_iff.2 ⟨b, first b found, next b c rest⟩

/-- What is made of a result stays the same if the result does. -/
theorem map {f : β → γ} (first : Below m m') : Below (m.map f) (m'.map f) := by
  intro c read
  obtain ⟨b, found, rfl⟩ := Option.map_eq_some_iff.1 read
  exact Option.map_eq_some_iff.2 ⟨b, first b found, rfl⟩

/-- A list is read as before if its changed element is. -/
theorem mapM {f : γ → Option β} {before after : List γ} {c c' : γ} (changed : Below (f c) (f c')) :
    Below ((before ++ c :: after).mapM f) ((before ++ c' :: after).mapM f) := by
  rw [List.mapM_append, List.mapM_append, List.mapM_cons, List.mapM_cons]
  exact (refl _).bind fun _ => (changed.bind fun _ => refl _).bind fun _ => refl _

end Below

/-- Whatever a document is read as, an edited one is read as, too. -/
def Tolerates {α : Type} (s : Shape) (read : Nat → Json → Option α) : Prop :=
  ∀ room value value', value.Legible room → s.Edits value value' →
    Below (read room value) (read room value')

/-- Types with a shape whose edits do not change what is read. -/
class Tolerant (α : Type) [Form α] where
  /-- Where the records in the form of the type are. -/
  shape : Shape
  /-- Edits do not change what is read. -/
  tolerates : Tolerates shape (Form.ofJson? (α := α))

export Tolerant (shape)

/-- Values that are read back with room for the containers in their form. -/
class Settled {α : Type} [Form α] (a : α) : Prop where
  /-- The value is read back. -/
  read {room : Nat} (legible : (toJson a).Legible room) : Form.ofJson? room (toJson a) = some a

section Fields

/-- What an edit may do to the value of a field. -/
inductive FieldEdit (room : Nat) (inner : Shape) (default : Option Json) :
    Option Json → Option Json → Prop where
  | same (value : Option Json) : FieldEdit room inner default value value
  | edited {value value' : Json} (legible : value.Legible room) (edit : inner.Edits value value') :
      FieldEdit room inner default (some value) (some value')
  | dropped {value : Json} (legible : value.Legible room) (own : default = some value) :
      FieldEdit room inner default (some value) none

/-- The fields of an edited record. -/
structure EditedFields (fields : List Shape.Field) (f f' : Json.Fields) : Prop where
  /-- There is as much room. -/
  room : f'.room = f.room
  /-- Each field is edited. -/
  each {name : String} {inner : Shape} {default : Option Json}
    (field : fields.lookup name = some (inner, default)) :
    FieldEdit f.room inner default (f.entries.lookup name) (f'.entries.lookup name)

variable {α : Type} [Form α] [Tolerant α] {fields : List Shape.Field} {f f' : Json.Fields}
  {name : String}

/-- A required field of an edited record is read as before. -/
theorem EditedFields.required (edited : EditedFields fields f f')
    (field : fields.lookup name = some (shape α, none)) :
    Below (f.required name : Option α) (f'.required name) := by
  have change := edited.each field
  unfold Json.Fields.required
  rw [edited.room]
  generalize f.entries.lookup name = value at *
  generalize f'.entries.lookup name = value' at *
  cases change with
  | same => exact .refl _
  | edited legible edit => exact Tolerant.tolerates _ _ _ legible edit
  | dropped _ own => cases own

/-- A field with a default is read from an edited record as before. -/
theorem EditedFields.defaulted (edited : EditedFields fields f f') {default : α} [Settled default]
    (field : fields.lookup name = some (shape α, some (toJson default))) :
    Below (f.defaulted name default) (f'.defaulted name default) := by
  have change := edited.each field
  unfold Json.Fields.defaulted
  rw [edited.room]
  generalize f.entries.lookup name = value at *
  generalize f'.entries.lookup name = value' at *
  cases change with
  | same => exact .refl _
  | edited legible edit => exact Tolerant.tolerates _ _ _ legible edit
  | dropped legible own =>
      -- The field that is gone would have been read as the default that takes its place.
      obtain rfl := Option.some.inj own
      intro a read
      exact (Settled.read legible).symm.trans read

/-- The tag of an edited record is read as before. -/
theorem EditedFields.ofTagged? {β : Type} {v : Vocabulary β} (edited : EditedFields fields f f')
    (field : fields.lookup name = some (.leaf, none)) :
    Below (v.ofTagged? f name) (v.ofTagged? f' name) := by
  have change := edited.each field
  unfold Vocabulary.ofTagged?
  generalize f.entries.lookup name = value at *
  generalize f'.entries.lookup name = value' at *
  cases change with
  | same => exact .refl _
  | edited _ edit => exact absurd edit Shape.not_edits_leaf
  | dropped _ own => cases own

end Fields

section Records

open Json

variable {fields : List Shape.Field} {names : List String} {room : Nat} {name : String} {value : Json}
  {members before after : List (String × Json)}

private theorem known_of_mem (field : name ∈ names) :
    known names (before ++ (name, value) :: after) =
      known names before ++ (name, value) :: known names after := by
  simp [known, field]

private theorem known_of_not_mem (unknown : name ∉ names) :
    known names (before ++ (name, value) :: after) = known names (before ++ after) := by
  simp [known, unknown]

private theorem known_append :
    known names (before ++ after) = known names before ++ known names after :=
  List.filter_append ..

private theorem nodup_known_append
    (distinct : ((known names (before ++ (name, value) :: after)).map Prod.fst).Nodup)
    (field : name ∈ names) :
    name ∉ (known names (before ++ after)).map Prod.fst ∧
      ((known names (before ++ after)).map Prod.fst).Nodup := by
  rw [known_of_mem field] at distinct
  rw [known_append]
  exact nodup_append_cons_iff.1 distinct

private theorem lookup_known_self (fresh : name ∉ (known names (before ++ after)).map Prod.fst)
    (field : name ∈ names) :
    (known names (before ++ (name, value) :: after)).lookup name = some value := by
  rw [known_append, List.map_append] at fresh
  rw [known_of_mem field, lookup_append_cons_self]
  exact fun member => fresh (List.mem_append_left _ member)

private theorem lookup_known_of_ne {other : String} (different : other ≠ name) :
    (known names (before ++ (name, value) :: after)).lookup other =
      (known names (before ++ after)).lookup other := by
  by_cases field : name ∈ names
  · rw [known_of_mem field, known_append, lookup_append_cons_of_ne different]
  · rw [known_of_not_mem field]

namespace EditedFields

variable {inner : Shape} {value' : Json}

/-- Members in another order are edited fields. -/
theorem permuted {members' : List (String × Json)} (same : members.Perm members')
    (distinct : ((known names members).map Prod.fst).Nodup) :
    EditedFields fields ⟨known names members, room⟩ ⟨known names members', room⟩ where
  room := rfl
  each _ := by
    have fieldsSame : (known names members).Perm (known names members') := same.filter _
    rw [lookup_of_perm fieldsSame distinct]
    exact .same _

/-- Without a member that has its default, the fields are edited ones. -/
theorem dropped (fit : fields.map Prod.fst = names)
    (default : fields.lookup name = some (inner, some value)) (legible : value.Legible room)
    (fresh : name ∉ (known names (before ++ after)).map Prod.fst) :
    EditedFields fields ⟨known names (before ++ (name, value) :: after), room⟩
      ⟨known names (before ++ after), room⟩ where
  room := rfl
  each {other _ _} found := by
    by_cases own : other = name
    · subst own
      obtain ⟨rfl, rfl⟩ := Prod.mk.inj (Option.some.inj (default.symm.trans found))
      have field : other ∈ names := fit ▸ mem_map_fst_of_lookup found
      rw [lookup_known_self fresh field, lookup_eq_none_of_not_mem fresh]
      exact .dropped legible rfl
    · rw [lookup_known_of_ne own]
      exact .same _

/-- With a member of an unknown name, the fields are edited ones. -/
theorem added (unknown : name ∉ names) :
    EditedFields fields ⟨known names (before ++ after), room⟩
      ⟨known names (before ++ (name, value) :: after), room⟩ := by
  rw [known_of_not_mem unknown]
  exact ⟨rfl, fun _ => .same _⟩

/-- With an edited member, the fields are edited ones. -/
theorem changed {default : Option Json} (fit : fields.map Prod.fst = names)
    (listed : fields.lookup name = some (inner, default)) (edit : inner.Edits value value')
    (legible : value.Legible room)
    (fresh : name ∉ (known names (before ++ after)).map Prod.fst) :
    EditedFields fields ⟨known names (before ++ (name, value) :: after), room⟩
      ⟨known names (before ++ (name, value') :: after), room⟩ where
  room := rfl
  each {other _ _} found := by
    by_cases own : other = name
    · subst own
      obtain ⟨rfl, rfl⟩ := Prod.mk.inj (Option.some.inj (listed.symm.trans found))
      have field : other ∈ names := fit ▸ mem_map_fst_of_lookup found
      rw [lookup_known_self fresh field, lookup_known_self fresh field]
      exact .edited legible edit
    · rw [lookup_known_of_ne own, lookup_known_of_ne own]
      exact .same _

end EditedFields

/-- The fields of an edited record are the edited fields of the record. -/
theorem exists_editedFields (fit : fields.map Prod.fst = names) {value : Json} {f : Fields}
    (legible : (Json.record members).Legible (room + 1))
    (edit : (Shape.record fields).Edits (.record members) value)
    (read : (Json.record members).fields? names (room + 1) = some f) :
    ∃ f', value.fields? names (room + 1) = some f' ∧ EditedFields fields f f' := by
  obtain ⟨distinct, rfl⟩ := fields?_record_iff.1 read
  obtain ⟨below, deeper, each⟩ := legible_record_iff.1 legible
  obtain rfl : room = below := Nat.succ.inj deeper
  generalize written : Json.record members = start at edit
  cases edit with
  | permute prescribed same =>
      cases prescribed
      obtain rfl := record_injective written
      have distinct' := ((same.filter _).map Prod.fst).nodup_iff.1 distinct
      exact ⟨_, fields?_record_iff.2 ⟨distinct', rfl⟩, .permuted same distinct⟩
  | drop prescribed default =>
      cases prescribed
      obtain rfl := record_injective written
      obtain ⟨fresh, distinct'⟩ := nodup_known_append distinct (fit ▸ mem_map_fst_of_lookup default)
      have first := each _ (List.mem_append_right _ List.mem_cons_self)
      exact ⟨_, fields?_record_iff.2 ⟨distinct', rfl⟩, .dropped fit default first fresh⟩
  | add prescribed unknown scalar =>
      cases prescribed
      obtain rfl := record_injective written
      rw [← known_of_not_mem (fit ▸ unknown)] at distinct
      exact ⟨_, fields?_record_iff.2 ⟨distinct, rfl⟩, .added (fit ▸ unknown)⟩
  | @member _ _ before after _ name value value' _ prescribed listed edit =>
      cases prescribed
      obtain rfl := record_injective written
      have field : name ∈ names := fit ▸ mem_map_fst_of_lookup listed
      obtain ⟨fresh, distinct'⟩ := nodup_known_append distinct field
      have first := each _ (List.mem_append_right _ List.mem_cons_self)
      have changed : ((known names (before ++ (name, value') :: after)).map Prod.fst).Nodup := by
        rw [known_append] at fresh distinct'
        rw [known_of_mem field]
        exact nodup_append_cons_iff.2 ⟨fresh, distinct'⟩
      exact ⟨_, fields?_record_iff.2 ⟨changed, rfl⟩, .changed fit listed edit first fresh⟩

private theorem below_fields? {α : Type} {build : Fields → Option α}
    (fit : fields.map Prod.fst = names)
    (built : ∀ {f f' : Fields}, EditedFields fields f f' → Below (build f) (build f'))
    {value value' : Json} (legible : value.Legible room)
    (edit : (Shape.record fields).Edits value value') :
    Below ((value.fields? names room).bind build) ((value'.fields? names room).bind build) := by
  intro a read
  obtain ⟨f, found, made⟩ := Option.bind_eq_some_iff.1 read
  obtain ⟨members, rfl⟩ := edit.exists_record
  obtain ⟨below, rfl, _⟩ := legible_record_iff.1 legible
  obtain ⟨f', found', edited⟩ := exists_editedFields fit legible edit found
  exact Option.bind_eq_some_iff.2 ⟨f', found', built edited a made⟩

/-- A reader of records tolerates edits if it reads edited fields as before. -/
theorem Tolerates.record {α : Type} {read : Nat → Json → Option α} {build : Fields → Option α}
    (reads : ∀ room value, read room value = (fields? names room value).bind build)
    (fit : fields.map Prod.fst = names)
    (built : ∀ {f f' : Fields}, EditedFields fields f f' → Below (build f) (build f')) :
    Tolerates (.record fields) read := by
  intro room value value' legible edit
  rw [reads, reads]
  exact below_fields? fit built legible edit

end Records

section Tags

open Json

variable {tag kind : String} {room : Nat} {members : List (String × Json)}

private theorem filter_of_tagged? {rest : Json} (legible : (Json.record members).Legible room)
    (found : tagged? tag room (.record members) = some (kind, rest)) :
    (members.filter fun entry => entry.1 = tag) = [(tag, .ofString kind)] ∧
      .record (untagged tag members) = rest := by
  unfold tagged? at found
  rw [if_pos legible.isPlain] at found
  unfold Json.record at found
  dsimp only at found
  rw [partition_record] at found
  generalize own : (members.filter fun entry => entry.1 = tag) = tags at found
  rcases tags with _ | ⟨⟨name, value⟩, _ | _⟩
  · cases found
  · cases value with
    | string q =>
        obtain ⟨member, named⟩ := List.mem_filter.1 (own ▸ List.mem_cons_self)
        obtain rfl : name = tag := of_decide_eq_true named
        obtain ⟨_, _, each⟩ := legible_record_iff.1 legible
        obtain ⟨s, rfl⟩ := exists_of_legible_string (each _ member)
        obtain ⟨s, text, same⟩ := Option.map_eq_some_iff.1 found
        rw [Quoted.text?_ofString] at text
        cases text
        cases same
        exact ⟨rfl, rfl⟩
    | _ => cases found
  · cases value <;> cases found

private theorem filter_of_ne {name : String} {value : Json} {before after : List (String × Json)}
    (other : name ≠ tag) :
    ((before ++ (name, value) :: after).filter fun entry => entry.1 = tag) =
      (before ++ after).filter fun entry => entry.1 = tag := by
  simp [other]

private theorem untagged_of_ne {name : String} {value : Json} {before after : List (String × Json)}
    (other : name ≠ tag) :
    untagged tag (before ++ (name, value) :: after) =
      untagged tag before ++ (name, value) :: untagged tag after := by
  simp [untagged, other]

private theorem untagged_append {before after : List (String × Json)} :
    untagged tag (before ++ after) = untagged tag before ++ untagged tag after :=
  List.filter_append ..

private theorem kind_of_mem {kind' : String} (present : (tag, Json.ofString kind') ∈ members)
    (single : (members.filter fun entry => entry.1 = tag) = [(tag, .ofString kind)]) :
    kind' = kind := by
  have listed : (tag, Json.ofString kind') ∈ members.filter fun entry => entry.1 = tag :=
    List.mem_filter.2 ⟨present, decide_eq_true rfl⟩
  rw [single, List.mem_singleton, Prod.mk.injEq] at listed
  exact Quoted.ofString_injective (Json.string.inj listed.2)

private theorem exists_variant {variants : List (String × List Shape.Field)}
    {listed : List Shape.Field}
    (prescribed : (Shape.tagged tag variants).Prescribes members listed)
    (single : (members.filter fun entry => entry.1 = tag) = [(tag, .ofString kind)]) :
    ∃ fields, (kind, fields) ∈ variants ∧ listed = (tag, .leaf, none) :: fields := by
  cases prescribed with
  | tagged variant present =>
      obtain rfl := kind_of_mem present single
      exact ⟨_, variant, rfl⟩

private theorem lookup_untagged {fields : List Shape.Field} {name : String}
    {field : Shape × Option Json}
    (found : ((tag, .leaf, none) :: fields : List Shape.Field).lookup name = some field)
    (other : field ≠ (.leaf, none)) : name ≠ tag ∧ fields.lookup name = some field := by
  have different : name ≠ tag := by
    rintro rfl
    rw [List.lookup_cons_self] at found
    exact other (Option.some.inj found).symm
  rw [List.lookup_cons, beq_eq_false_iff_ne.2 different] at found
  exact ⟨different, found⟩

/-- An edit of a tagged record leaves its tag and edits the rest as a record with the fields that
go with the tag. -/
theorem edits_untagged {variants : List (String × List Shape.Field)} {value : Json}
    (edit : (Shape.tagged tag variants).Edits (.record members) value)
    (single : (members.filter fun entry => entry.1 = tag) = [(tag, .ofString kind)]) :
    ∃ fields members', (kind, fields) ∈ variants ∧ value = .record members' ∧
      (members'.filter fun entry => entry.1 = tag) = [(tag, .ofString kind)] ∧
      (Shape.record fields).Edits (.record (untagged tag members))
        (.record (untagged tag members')) := by
  generalize written : Json.record members = start at edit
  cases edit with
  | permute prescribed same =>
      obtain rfl := record_injective written
      obtain ⟨fields, variant, rfl⟩ := exists_variant prescribed single
      refine ⟨fields, _, variant, rfl, ?_, .permute .record (same.filter _)⟩
      exact List.perm_singleton.1 (single ▸ (same.filter _).symm)
  | drop prescribed default =>
      obtain rfl := record_injective written
      obtain ⟨fields, variant, rfl⟩ := exists_variant prescribed single
      obtain ⟨other, default⟩ := lookup_untagged default nofun
      refine ⟨fields, _, variant, rfl, filter_of_ne other ▸ single, ?_⟩
      rw [untagged_of_ne other, untagged_append]
      exact .drop .record default
  | add prescribed unknown scalar =>
      obtain rfl := record_injective written
      obtain ⟨fields, variant, rfl⟩ := exists_variant prescribed single
      rw [List.map_cons, List.mem_cons, not_or] at unknown
      refine ⟨fields, _, variant, rfl, (filter_of_ne unknown.1).trans single, ?_⟩
      rw [untagged_of_ne unknown.1, untagged_append]
      exact .add .record unknown.2 scalar
  | member prescribed listed edit =>
      obtain rfl := record_injective written
      obtain ⟨fields, variant, rfl⟩ := exists_variant prescribed single
      obtain ⟨other, listed⟩ := lookup_untagged listed fun same =>
        Shape.not_edits_leaf ((Prod.mk.inj same).1 ▸ edit)
      rw [filter_of_ne other] at single
      refine ⟨fields, _, variant, rfl, (filter_of_ne other).trans single, ?_⟩
      rw [untagged_of_ne other, untagged_of_ne other]
      exact .member .record listed edit

/-- A reader of tagged records tolerates edits if it does in each variant. -/
theorem Tolerates.tagged {α : Type} {read : Nat → Json → Option α}
    {inner : Nat → String × Json → Option α} {variants : List (String × List Shape.Field)}
    (reads : ∀ room value, read room value = (tagged? tag room value).bind (inner room))
    (each : ∀ variant ∈ variants, ∃ build : Fields → Option α,
      (∀ room value, inner room (variant.1, value) =
        (fields? (variant.2.map Prod.fst) room value).bind build) ∧
      ∀ {f f' : Fields}, EditedFields variant.2 f f' → Below (build f) (build f')) :
    Tolerates (.tagged tag variants) read := by
  intro room value value' legible edit a read
  rw [reads] at read ⊢
  obtain ⟨members, rfl⟩ := edit.exists_members
  obtain ⟨⟨kind, rest⟩, found, made⟩ := Option.bind_eq_some_iff.1 read
  obtain ⟨single, rfl⟩ := filter_of_tagged? legible found
  obtain ⟨fields, members', variant, rfl, single', edited⟩ := edits_untagged edit single
  obtain ⟨build, reads, built⟩ := each _ variant
  -- Finding the tag takes a plain record, which edits keep because they keep it legible.
  rw [tagged?_record (edit.legible legible) single', Option.bind_some]
  have untaggedLegible : (Json.record (untagged tag members)).Legible room := by
    obtain ⟨below, rfl, each⟩ := legible_record_iff.1 legible
    exact .record fun entry member => each entry ((List.mem_filter.1 member).1)
  rw [reads] at made ⊢
  exact below_fields? rfl built untaggedLegible edited a made

end Tags

section Containers

private theorem below_entries {α κ : Type} [Form α] (read : Quoted → Option κ) {room : Nat}
    {name : String}
    {value value' : Json} {before after : List (String × Json)}
    (changed : Below (Form.ofJson? (α := α) room value) (Form.ofJson? room value')) :
    Below
      (((before ++ (name, value) :: after).map fun (name, value) =>
        (Quoted.ofString name, value)).mapM fun (name, value) => do
          return (← read name, ← Form.ofJson? (α := α) room value))
      (((before ++ (name, value') :: after).map fun (name, value) =>
        (Quoted.ofString name, value)).mapM fun (name, value) => do
          return (← read name, ← Form.ofJson? (α := α) room value)) := by
  rw [List.map_append, List.map_append, List.map_cons, List.map_cons]
  exact .mapM (.bind (.refl _) fun _ => .bind changed fun _ => .refl _)

/-- A leaf has no edits that would have to be tolerated. -/
theorem Tolerates.leaf {α : Type} {read : Nat → Json → Option α} : Tolerates .leaf read :=
  fun _ _ _ _ edit => absurd edit Shape.not_edits_leaf

variable {α : Type} [Form α] [Tolerant α]

instance : Tolerant (Option α) where
  shape := .optional (shape α)
  tolerates room value value' legible edit := by
    obtain ⟨there, there'⟩ := edit.ne_null
    rw [ofJson?_option there, ofJson?_option there']
    exact (Tolerant.tolerates room value value' legible edit.of_optional).map

instance : Tolerant (List α) where
  shape := .list (shape α)
  tolerates room value value' legible edit := by
    obtain ⟨before, after, element, element', rfl, rfl, inner⟩ := edit.exists_element
    obtain ⟨room, rfl, each⟩ := Json.legible_array_iff.1 legible
    have first := each element (List.mem_append_right before List.mem_cons_self)
    exact .mapM (Tolerant.tolerates room element element' first inner)

instance : Tolerant (SortedMap String α) where
  shape := .dictionary (shape α)
  tolerates room value value' legible edit := by
    obtain ⟨before, after, name, entry, entry', rfl, rfl, inner⟩ := edit.exists_entry
    obtain ⟨room, rfl, each⟩ := Json.legible_record_iff.1 legible
    have first := each (name, entry) (List.mem_append_right before List.mem_cons_self)
    have changed := Tolerant.tolerates room entry entry' first inner
    exact .bind (below_entries Quoted.text? changed) fun _ => .refl _

instance : Tolerant (SortedMap UInt64 α) where
  shape := .dictionary (shape α)
  tolerates room value value' legible edit := by
    obtain ⟨before, after, name, entry, entry', rfl, rfl, inner⟩ := edit.exists_entry
    obtain ⟨room, rfl, each⟩ := Json.legible_record_iff.1 legible
    have first := each (name, entry) (List.mem_append_right before List.mem_cons_self)
    have changed := Tolerant.tolerates room entry entry' first inner
    exact .bind (below_entries Quoted.number? changed) fun _ => .refl _

end Containers

section Defaults

variable {α : Type} [Form α]

/-- A value that is recovered at depth zero is settled. -/
theorem Recovers.settled {a : α} (recovered : Recovers 0 a) : Settled a where
  read _ := recovered.read (Nat.zero_le _)

instance [Lossless α 0] (a : α) : Settled a :=
  (Lossless.recovers a).settled

instance : Settled (none : Option α) where
  read _ := rfl

instance : Settled ([] : List α) where
  read legible := by
    obtain ⟨_, rfl, _⟩ := Json.legible_array_iff.1 legible
    rfl

instance : Settled (SortedMap.empty : SortedMap String α) where
  read legible := by
    obtain ⟨_, rfl, _⟩ := Json.legible_record_iff.1 legible
    rfl

instance : Settled (SortedMap.empty : SortedMap UInt64 α) where
  read legible := by
    obtain ⟨_, rfl, _⟩ := Json.legible_record_iff.1 legible
    rfl

end Defaults

section Documents

variable {α : Type} [Form α] [Tolerant α] {a : α} {depth : Nat} {document : Json}

/-- After all edits a recovered value is still read. The next edit needs a legible document, too. -/
theorem Recovers.edited (recovered : Recovers depth a) (below : depth ≤ Json.depthLimit)
    (edited : Relation.ReflTransGen (shape α).Edits (toJson a) document) :
    document.Legible Json.depthLimit ∧ Form.ofJson? Json.depthLimit document = some a := by
  induction edited with
  | refl => exact ⟨recovered.legible.mono below, recovered.read below⟩
  | tail _ edit ih => exact ⟨edit.legible ih.1, Tolerant.tolerates _ _ _ ih.1 edit a ih.2⟩

/-- A recovered value is read from every document that edits make out of its own. -/
theorem Recovers.read?_edited (recovered : Recovers depth a) (below : depth ≤ Json.depthLimit)
    (edited : Relation.ReflTransGen (shape α).Edits (toJson a) document) :
    Json.read? α document.text = some a := by
  obtain ⟨legible, read⟩ := recovered.edited below edited
  exact read?_of_parse? (Json.parse?_text legible) read

end Documents

end Form

end ConfigFacts
