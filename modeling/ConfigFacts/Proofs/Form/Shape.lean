import ConfigFacts.Proofs.Form.Recovery

/-!
# Edits of documents

A shape says where the records of a form are, which fields they have, and which of these may be
missing because they have a default. `Shape.Edits` is one edit of a document: in one of its records
the members are permuted, a member with its default is left out, or an unknown member is put in.
An edit keeps a document legible (`Shape.Edits.legible`).
-/

namespace ConfigFacts

/-- Where the records of a form are: nowhere, in what is there instead of `null`, in the elements of
a list or the values of a map, or here. A field of a record goes with its name, the shape of its
values, and the value that is written for its default, if it has one. -/
inductive Shape where
  | leaf
  | optional (inner : Shape)
  | list (element : Shape)
  | dictionary (value : Shape)
  | record (fields : List (String × Shape × Option Json))
  | tagged (tag : String) (variants : List (String × List (String × Shape × Option Json)))

namespace Shape

/-- A field of a record with the shape of its values and its default. -/
abbrev Field := String × Shape × Option Json

/-- The record of a shape with the given members has the given fields. The tag is one of them. -/
inductive Prescribes : Shape → List (String × Json) → List Field → Prop where
  | record {fields : List Field} {members : List (String × Json)} :
      Prescribes (.record fields) members fields
  | tagged {tag kind : String} {variants : List (String × List Field)} {fields : List Field}
      {members : List (String × Json)} (variant : (kind, fields) ∈ variants)
      (present : (tag, .ofString kind) ∈ members) :
      Prescribes (.tagged tag variants) members ((tag, .leaf, none) :: fields)

/-- The values that an unknown member may have. -/
inductive Scalar : Json → Prop where
  | null : Scalar .null
  | bool (b : Bool) : Scalar (.bool b)
  | string (s : String) : Scalar (.ofString s)
  | number (n : UInt64) : Scalar (.ofNat n.toNat)

/-- One edit of a document of a shape. The members of a record change places, one that is its default
is left out, or one that is no field is put in; or the edit is made further inside. -/
inductive Edits : Shape → Json → Json → Prop where
  | permute {shape : Shape} {members members' : List (String × Json)} {fields : List Field}
      (prescribed : shape.Prescribes members fields) (same : members.Perm members') :
      Edits shape (.record members) (.record members')
  | drop {shape inner : Shape} {before after : List (String × Json)} {fields : List Field}
      {name : String} {value : Json}
      (prescribed : shape.Prescribes (before ++ (name, value) :: after) fields)
      (default : fields.lookup name = some (inner, some value)) :
      Edits shape (.record (before ++ (name, value) :: after)) (.record (before ++ after))
  | add {shape : Shape} {before after : List (String × Json)} {fields : List Field} {name : String}
      {value : Json} (prescribed : shape.Prescribes (before ++ after) fields)
      (unknown : name ∉ fields.map Prod.fst) (scalar : Scalar value) :
      Edits shape (.record (before ++ after)) (.record (before ++ (name, value) :: after))
  | member {shape inner : Shape} {before after : List (String × Json)} {fields : List Field}
      {name : String} {value value' : Json} {default : Option Json}
      (prescribed : shape.Prescribes (before ++ (name, value) :: after) fields)
      (field : fields.lookup name = some (inner, default)) (edit : Edits inner value value') :
      Edits shape (.record (before ++ (name, value) :: after))
        (.record (before ++ (name, value') :: after))
  | entry {inner : Shape} {before after : List (String × Json)} {name : String}
      {value value' : Json} (edit : Edits inner value value') :
      Edits (.dictionary inner) (.record (before ++ (name, value) :: after))
        (.record (before ++ (name, value') :: after))
  | element {inner : Shape} {before after : List Json} {value value' : Json}
      (edit : Edits inner value value') :
      Edits (.list inner) (.array (before ++ value :: after)) (.array (before ++ value' :: after))
  | present {inner : Shape} {value value' : Json} (edit : Edits inner value value') :
      Edits (.optional inner) value value'

end Shape

namespace Json

/-- Records are told apart by their members. -/
theorem record_injective {members members' : List (String × Json)}
    (same : Json.record members = Json.record members') : members = members' := by
  refine (List.map_inj_right ?_).1 (Json.object.inj same)
  rintro ⟨name, value⟩ ⟨name', value'⟩ equal
  obtain ⟨names, values⟩ := Prod.mk.inj equal
  rw [Quoted.ofString_injective names, values]

/-- A record is legible at a depth above that of its values. -/
theorem legible_record_iff {depth : Nat} {members : List (String × Json)} :
    (Json.record members).Legible depth ↔
      ∃ below, depth = below + 1 ∧ ∀ entry ∈ members, entry.2.Legible below := by
  constructor
  · intro legible
    generalize written : Json.record members = value at legible
    cases legible with
    | record each =>
        obtain rfl := record_injective written
        exact ⟨_, rfl, each⟩
    | _ => cases written
  · rintro ⟨below, rfl, each⟩
    exact .record each

/-- A legible string is the quotation of a text. -/
theorem exists_of_legible_string {depth : Nat} {q : Quoted}
    (legible : (Json.string q).Legible depth) : ∃ s, q = .ofString s := by
  generalize written : Json.string q = value at legible
  cases legible with
  | string s => exact ⟨s, Json.string.inj written⟩
  | _ => cases written

/-- An array is legible at a depth above that of its elements. -/
theorem legible_array_iff {depth : Nat} {elements : List Json} :
    (Json.array elements).Legible depth ↔
      ∃ below, depth = below + 1 ∧ ∀ value ∈ elements, value.Legible below := by
  constructor
  · intro legible
    generalize written : Json.array elements = value at legible
    cases legible with
    | array each =>
        cases written
        exact ⟨_, rfl, each⟩
    | _ => cases written
  · rintro ⟨below, rfl, each⟩
    exact .array each

end Json

namespace Shape

/-- A scalar is legible at every depth. -/
theorem Scalar.legible {value : Json} (scalar : Scalar value) (depth : Nat) :
    value.Legible depth := by
  cases scalar with
  | null => exact .null
  | bool b => exact .bool b
  | string s => exact .string s
  | number n => exact (Json.legible_ofNat n.toNat_lt).mono (Nat.zero_le depth)

/-- An edit keeps a document legible. -/
theorem Edits.legible {shape : Shape} {value value' : Json} (edit : Edits shape value value')
    {depth : Nat} (legible : value.Legible depth) : value'.Legible depth := by
  induction edit generalizing depth with
  | permute _ same =>
      obtain ⟨below, rfl, each⟩ := Json.legible_record_iff.1 legible
      exact .record fun entry member => each entry (same.mem_iff.2 member)
  | drop _ _ =>
      obtain ⟨below, rfl, each⟩ := Json.legible_record_iff.1 legible
      rw [List.forall_mem_append, List.forall_mem_cons] at each
      exact .record (List.forall_mem_append.2 ⟨each.1, each.2.2⟩)
  | add _ _ scalar =>
      obtain ⟨below, rfl, each⟩ := Json.legible_record_iff.1 legible
      rw [List.forall_mem_append] at each
      exact .record (List.forall_mem_append.2
        ⟨each.1, List.forall_mem_cons.2 ⟨scalar.legible below, each.2⟩⟩)
  | member _ _ _ ih | entry _ ih =>
      obtain ⟨below, rfl, each⟩ := Json.legible_record_iff.1 legible
      rw [List.forall_mem_append, List.forall_mem_cons] at each
      exact .record (List.forall_mem_append.2
        ⟨each.1, List.forall_mem_cons.2 ⟨ih each.2.1, each.2.2⟩⟩)
  | element _ ih =>
      obtain ⟨below, rfl, each⟩ := Json.legible_array_iff.1 legible
      rw [List.forall_mem_append, List.forall_mem_cons] at each
      exact .array (List.forall_mem_append.2
        ⟨each.1, List.forall_mem_cons.2 ⟨ih each.2.1, each.2.2⟩⟩)
  | present _ ih => exact ih legible

theorem not_edits_leaf {value value' : Json} : ¬Edits .leaf value value' := by
  intro edit
  cases edit with
  | permute prescribed _ | drop prescribed _ | add prescribed _ _ | member prescribed _ _ =>
      cases prescribed

/-- An edit of an optional value is one of the value. -/
theorem Edits.of_optional {inner : Shape} {value value' : Json}
    (edit : Edits (.optional inner) value value') : Edits inner value value' := by
  cases edit with
  | present edit => exact edit
  | permute prescribed _ | drop prescribed _ | add prescribed _ _ | member prescribed _ _ =>
      cases prescribed

/-- An edit of a list edits one of its elements. -/
theorem Edits.exists_element {inner : Shape} {value value' : Json}
    (edit : Edits (.list inner) value value') :
    ∃ before after element element', value = .array (before ++ element :: after) ∧
      value' = .array (before ++ element' :: after) ∧ Edits inner element element' := by
  cases edit with
  | element edit => exact ⟨_, _, _, _, rfl, rfl, edit⟩
  | permute prescribed _ | drop prescribed _ | add prescribed _ _ | member prescribed _ _ =>
      cases prescribed

/-- An edit of a dictionary edits one of its entries. -/
theorem Edits.exists_entry {inner : Shape} {value value' : Json}
    (edit : Edits (.dictionary inner) value value') :
    ∃ before after name entry entry', value = .record (before ++ (name, entry) :: after) ∧
      value' = .record (before ++ (name, entry') :: after) ∧ Edits inner entry entry' := by
  cases edit with
  | entry edit => exact ⟨_, _, _, _, _, rfl, rfl, edit⟩
  | permute prescribed _ | drop prescribed _ | add prescribed _ _ | member prescribed _ _ =>
      cases prescribed

/-- Only records have edits of tagged records. -/
theorem Edits.exists_members {tag : String} {variants : List (String × List Field)}
    {value value' : Json} (edit : Edits (.tagged tag variants) value value') :
    ∃ members, value = .record members := by
  cases edit <;> exact ⟨_, rfl⟩

/-- Only records have edits of records. -/
theorem Edits.exists_record {fields : List Field} {value value' : Json}
    (edit : Edits (.record fields) value value') : ∃ members, value = .record members := by
  cases edit <;> exact ⟨_, rfl⟩

/-- Only what is there is edited. -/
theorem Edits.ne_null {shape : Shape} {value value' : Json} (edit : Edits shape value value') :
    value ≠ .null ∧ value' ≠ .null := by
  induction edit with
  | present _ ih => exact ih
  | _ => exact ⟨nofun, nofun⟩

end Shape

end ConfigFacts
