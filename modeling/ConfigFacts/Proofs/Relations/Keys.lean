import ConfigFacts.Proofs.Policies.Lines
import ConfigFacts.Proofs.Relations.Columns
import ConfigFacts.Proofs.Relations.Constructs

/-!
# Keys of constructs

The facts of a line of a list or of a clause start with the name of the list or policy map and the
position in it (`Construct.key_prefix`). No two constructs of one family share this key, so a fact
with the key of a construct is one of this construct (`Device.mem_extract_of_key`).
-/

namespace ConfigFacts

open ConfigFacts.Extraction (forall_mem_facts_append forall_mem_facts_each)

namespace Construct

/-- What all facts of a construct start with. -/
def key (hostname : String) : Construct → List Field
  | accessLine list i _ | filterLine list i _ | communityLine list i _ | policyClause list i _ =>
    [qualify hostname list, i]
  | switchport interface _ => [hostname, interface]
  | outboundPolicy _ => []

variable (d : Device) (known : CommunitySet)

/-- The facts of a line of an access list start with the list and the position. -/
theorem key_accessLine (list : QualifiedName) (i : Nat) (line : AccessListLine) :
    ∀ f ∈ (Device.accessLineOf list i line).facts, [Field.name list, .number i] <+: f.fields := by
  unfold Device.accessLineOf
  split
  · refine forall_mem_facts_append (forall_mem_facts_append ?_ fun f member => ?_)
      fun f member => ?_
    · exact List.forall_mem_singleton.2 ⟨_, rfl⟩
    · exact (Device.refers_accessAction list i line.action f member).start
    · exact (Device.refers_ports list i line f member).start
  · exact fun _ member => nomatch member

/-- The facts of a line of a route filter start with the filter and the position. -/
theorem key_filterLine (list : QualifiedName) (i : Nat) (line : RouteFilterLine) :
    ∀ f ∈ (Device.filterLineOf list i line).facts, [Field.name list, .number i] <+: f.fields := by
  cases line with
  | through => exact fun _ member => nomatch member
  | lengthRange action =>
      refine forall_mem_facts_append (List.forall_mem_singleton.2 ⟨_, rfl⟩) fun f member => ?_
      exact (Device.refers_filterAction list i action f member).start

/-- The facts of a line of a community list start with the list and the position. -/
theorem key_communityLine (list : QualifiedName) (i : Nat) (line : CommunityListLine) :
    ∀ f ∈ (Device.communityLineOf known list i line).facts,
      [Field.name list, .number i] <+: f.fields := by
  unfold Device.communityLineOf
  cases line.matching? known with
  | none => exact fun _ member => nomatch member
  | some cs =>
      refine forall_mem_facts_append (List.forall_mem_map.2 fun _ _ => ⟨_, rfl⟩) ?_
      cases line.action with
      | accept => exact List.forall_mem_singleton.2 ⟨_, rfl⟩
      | reject | unrecognized => exact fun _ member => nomatch member

/-- The facts of a clause start with the policy map and the position. -/
theorem key_clause (map : QualifiedName) (i : Nat) (clause : PolicyClause) :
    ∀ f ∈ (Device.clauseOf d.hostname map i clause).facts,
      [Field.name map, .number i] <+: f.fields := by
  rw [Device.clauseOf_eq]
  refine forall_mem_facts_append ?_ (forall_mem_facts_each (fun line f member => ?_) _)
  · cases clause.action with
    | permit | deny => exact List.forall_mem_singleton.2 ⟨_, rfl⟩
    | unrecognized => exact fun _ member => nomatch member
  · rw [ClauseLine.facts_extract] at member
    obtain ⟨_, _, _, _, rfl⟩ := (ClauseLine.mem_facts_iff _ _ _).1 member
    exact ⟨_, rfl⟩

/-- The facts of a construct start with its key. -/
theorem key_prefix (c : Construct) :
    ∀ f ∈ (c.extract d known).facts, c.key d.hostname <+: f.fields := by
  cases c with
  | accessLine list i line => exact key_accessLine _ i line
  | filterLine list i line => exact key_filterLine _ i line
  | communityLine list i line => exact key_communityLine known _ i line
  | policyClause map i clause => exact key_clause d _ i clause
  | outboundPolicy policy => exact fun f _ => List.nil_prefix
  | switchport name i =>
      intro f member
      simp only [extract, Device.switchportOf] at member
      cases mode : i.switchport with
      | access vlan =>
          rw [mode] at member
          obtain rfl := List.mem_singleton.1 member
          exact ⟨_, rfl⟩
      | trunk encapsulation nativeVlan allowedVlans =>
          rw [mode] at member
          revert f
          refine List.forall_mem_cons.2 ⟨⟨_, rfl⟩, List.forall_mem_cons.2 ⟨⟨_, rfl⟩, ?_⟩⟩
          exact List.forall_mem_map.2 fun _ _ => ⟨_, rfl⟩
      | dynamicAuto | dynamicDesirable | none | unrecognized =>
          rw [mode] at member
          cases member

end Construct

namespace Device

variable {d : Device} {known : CommunitySet} {c : Construct}

/-- The constructs of a family are told apart by their keys. -/
theorem eq_of_key {c' : Construct} (held : d.Holds c) (held' : d.Holds c')
    (listed : c.family ≠ .outboundPolicies) (family : c'.family = c.family)
    (key : c'.key d.hostname = c.key d.hostname) : c' = c := by
  have position {name name' : String} {i i' : Nat}
      (key : [Field.name (qualify d.hostname name'), .number i'] =
        [.name (qualify d.hostname name), .number i]) : name' = name ∧ i' = i := by
    simpa only [qualify, List.cons.injEq, Field.name.injEq, Field.number.injEq,
      QualifiedName.mk.injEq, true_and, and_true] using key
  cases held with
  | outboundPolicy => exact absurd rfl listed
  | switchport stored =>
      cases held' with
      | switchport stored' =>
          obtain rfl := Field.text.inj (List.cons.inj (List.cons.inj key).2).1
          obtain rfl := Option.some.inj (stored.symm.trans stored')
          rfl
      | _ => cases family
  | accessLine stored present | policyClause stored present | filterLine stored present
    | communityLine stored present =>
      -- The family leaves one case of the other construct.
      cases held' <;> try cases family
      rename_i stored' present'
      obtain ⟨rfl, rfl⟩ := position key
      obtain rfl := Option.some.inj (stored.symm.trans stored')
      obtain rfl := Option.some.inj (present.symm.trans present')
      rfl

/-- A fact of the family of a construct that starts with its key comes from the construct. -/
theorem mem_extract_of_key (held : d.Holds c) (listed : c.family ≠ .outboundPolicies) {f : Fact}
    (member : f ∈ (d.extract known).facts) (own : f.kind.family? = some c.family)
    (key : c.key d.hostname <+: f.fields) : f ∈ (c.extract d known).facts := by
  have found := mem_family_facts c.family member own
  rw [Family.extract_eq_each d known c.family_mem_fallible] at found
  obtain ⟨c', present, found⟩ := Extraction.exists_of_mem_facts_each _ found
  have family := Family.family_of_mem_constructs d present
  have held' : d.Holds c' := (d.mem_constructs_iff).1
    (List.mem_flatMap.2 ⟨c.family, c.family_mem_fallible, present⟩)
  have size : (c'.key d.hostname).length = (c.key d.hostname).length := by
    cases c <;> cases c' <;> first | rfl | cases family
  have keys := List.prefix_of_prefix_length_le (c'.key_prefix d known f found) key
    (Nat.le_of_eq size)
  rwa [← eq_of_key held held' listed family (keys.eq_of_length size)]

/-- A device that does not fail has the facts of what it holds. -/
theorem mem_facts_of_holds (sound : (d.extract known).failure = none) (held : d.Holds c) {f : Fact}
    (found : f ∈ (c.extract d known).facts) : f ∈ (d.extract known).facts := by
  apply mem_facts_of_family sound c.family
  have passed := failure_family sound c.family
  rw [Family.extract_eq_each d known c.family_mem_fallible] at passed ⊢
  rw [Extraction.facts_each_of_none _ (Extraction.failure_eq_none_of_each _ passed)]
  obtain ⟨family, _, present⟩ := List.mem_flatMap.1 (d.mem_constructs_iff.2 held)
  obtain rfl := Family.family_of_mem_constructs d present
  exact List.mem_flatMap.2 ⟨c, present, found⟩

end Device

end ConfigFacts
