import ConfigFacts.Proofs.Relations.Positions
import ConfigFacts.Proofs.Warnings
import ConfigFacts.Proofs.Wire.Reading

/-!
# Structures do not show in the facts of others

The facts of an access list, a route filter, a community list or a policy map start with its name,
and neither positions nor anything else pass from one structure to the next. So a device in which
one of them is changed, added or removed keeps the facts and the warnings that are not about its
name, in their order (`Device.edit_is_local`).
-/

namespace ConfigFacts

/-- Two devices differ at most in the structure of a family that has some name: in what it is, or in
whether there is one. -/
inductive Device.DiffersAt (name : String) (d : Device) : Family → Device → Prop where
  | accessList {lists : SortedMap String AccessList} (others : d.accessLists.AgreesOff name lists) :
    DiffersAt name d .accessLists { d with accessLists := lists }
  | routeFilter {filters : SortedMap String RouteFilter}
    (others : d.routeFilters.AgreesOff name filters) :
    DiffersAt name d .routeFilters { d with routeFilters := filters }
  | communityList {lists : SortedMap String CommunityList}
    (others : d.communityLists.AgreesOff name lists) :
    DiffersAt name d .communityLists { d with communityLists := lists }
  | policyMap {maps : SortedMap String PolicyMap} (others : d.policyMaps.AgreesOff name maps) :
    DiffersAt name d .policyMaps { d with policyMaps := maps }

/-- The structure that a warning is about. -/
def Warning.about : Warning → QualifiedName
  | accessListLine list _ | throughLine list _ => list
  | asPathMatch map _ | asPathPrepend map _ | clearCommunities map _ => map

/-- A fact does not start with the name of a structure. -/
def Fact.spares (q : QualifiedName) (f : Fact) : Bool :=
  f.texts.head? ≠ some (toString q)

/-- A warning is not about a structure. -/
def Warning.spares (q : QualifiedName) (w : Warning) : Bool :=
  w.about ≠ q

private theorem Fact.spares_eq_false {q : QualifiedName} {i : Nat} {f : Fact}
    (key : [Field.name q, .number i] <+: f.fields) : f.spares q = false := by
  obtain ⟨rest, fields⟩ := key
  rw [spares, texts, ← fields]
  exact decide_eq_false (not_not.2 rfl)

namespace Warning

variable {q : QualifiedName} {i : Nat} {w : Warning}

private theorem about_of_accessLine {line : AccessListLine} (raised : line.warning? q i = some w) :
    w.about = q := by
  unfold AccessListLine.warning? at raised
  split at raised
  · cases raised
  · exact Option.some.inj raised ▸ rfl

private theorem about_of_filterLine {line : RouteFilterLine} (raised : line.warning? q i = some w) :
    w.about = q := by
  cases line with
  | lengthRange => cases raised
  | through => exact Option.some.inj raised ▸ rfl

private theorem about_of_clauseLine {line : ClauseLine} (raised : line.warning? q i = some w) :
    w.about = q := by
  cases line with
  | matching line =>
      cases line <;> cases raised
      rfl
  | setting line => cases line <;> cases raised <;> rfl

end Warning

/-- Off the name of a structure, the facts of named structures are those of the others. -/
theorem Extraction.filter_structures {α β : Type} {structures edited : SortedMap String α}
    {items : α → List β} {extract : QualifiedName → Nat → β → Extraction} {hostname name : String}
    (agrees : structures.AgreesOff name edited)
    (keyed : ∀ q i x, ∀ f ∈ (extract q i x).facts, [Field.name q, .number i] <+: f.fields)
    (sound : (Extraction.each structures.entries fun e => .eachIndexed (items e.2) fun i x =>
      extract (qualify hostname e.1) i x).failure = none)
    (sound' : (Extraction.each edited.entries fun e => .eachIndexed (items e.2) fun i x =>
      extract (qualify hostname e.1) i x).failure = none) :
    (Extraction.each structures.entries fun e => .eachIndexed (items e.2) fun i x =>
        extract (qualify hostname e.1) i x).facts.filter (Fact.spares (qualify hostname name)) =
      (Extraction.each edited.entries fun e => .eachIndexed (items e.2) fun i x =>
        extract (qualify hostname e.1) i x).facts.filter
          (Fact.spares (qualify hostname name)) := by
  rw [facts_each_of_none _ (failure_eq_none_of_each _ sound),
    facts_each_of_none _ (failure_eq_none_of_each _ sound')]
  refine agrees.filter_flatMap fun a f member => ?_
  obtain ⟨⟨x, i⟩, _, found⟩ := exists_of_mem_facts_each _ member
  exact Fact.spares_eq_false (keyed _ i x f found)

namespace Device.DiffersAt

variable {name : String} {d d' : Device} {family : Family} {known : CommunitySet}

/-- The other families are the same. -/
theorem extract_eq (edited : d.DiffersAt name family d') {f : Family} (other : f ≠ family) :
    f.extract d known = f.extract d' known := by
  cases edited <;> cases f <;> first | rfl | exact absurd rfl other

/-- The family itself is the same off the name. -/
theorem filter_facts (edited : d.DiffersAt name family d')
    (sound : (family.extract d known).failure = none)
    (sound' : (family.extract d' known).failure = none) :
    (family.extract d known).facts.filter (Fact.spares (qualify d.hostname name)) =
      (family.extract d' known).facts.filter (Fact.spares (qualify d.hostname name)) := by
  cases edited with
  | accessList others =>
      exact Extraction.filter_structures others Construct.key_accessLine sound sound'
  | routeFilter others =>
      exact Extraction.filter_structures others Construct.key_filterLine sound sound'
  | communityList others =>
      exact Extraction.filter_structures others (Construct.key_communityLine known) sound sound'
  | policyMap others =>
      exact Extraction.filter_structures others (Construct.key_clause d) sound sound'

/-- The family itself has no facts in the bins of others. -/
theorem filter_kind (edited : d.DiffersAt name family d') {k : FactKind}
    (other : k.family? ≠ some family) (e : Device) :
    (family.extract e known).facts.filter (fun f => f.kind = k) = [] := by
  have forbidden : family.mayWrite k = false := by
    cases edited <;> simp [Family.mayWrite, Family.registersNetworks, other]
  refine List.filter_eq_nil_iff.2 fun f member shown => ?_
  have allowed := family.within e known f member
  rw [of_decide_eq_true shown, forbidden] at allowed
  cases allowed

private theorem filter_warnings (edited : d.DiffersAt name family d') (f : Family) :
    (f.warnings d).filter (Warning.spares (qualify d.hostname name)) =
      (f.warnings d').filter (Warning.spares (qualify d.hostname name)) := by
  have hidden {w : Warning} {q : QualifiedName} (about : w.about = q) : w.spares q = false :=
    decide_eq_false (not_not.2 about)
  cases edited with
  | accessList others =>
      cases f with
      | accessLists =>
          refine others.filter_flatMap fun list w member => ?_
          obtain ⟨_, _, raised⟩ := List.mem_filterMap.1 member
          exact hidden (Warning.about_of_accessLine raised)
      | _ => rfl
  | routeFilter others =>
      cases f with
      | routeFilters =>
          refine others.filter_flatMap fun filter w member => ?_
          obtain ⟨_, _, raised⟩ := List.mem_filterMap.1 member
          exact hidden (Warning.about_of_filterLine raised)
      | _ => rfl
  | policyMap others =>
      cases f with
      | policyMaps =>
          refine others.filter_flatMap fun map w member => ?_
          obtain ⟨_, _, inClause⟩ := List.mem_flatMap.1 member
          obtain ⟨_, _, raised⟩ := List.mem_filterMap.1 inClause
          exact hidden (Warning.about_of_clauseLine raised)
      | _ => rfl
  | communityList => cases f <;> rfl

/-- The facts of the whole device, as far as those of each family are the same. -/
theorem filter_extract {p : Fact → Bool} (sound : (d.extract known).failure = none)
    (sound' : (d'.extract known).failure = none)
    (same : ∀ f : Family, (f.extract d known).failure = none → (f.extract d' known).failure = none →
      (f.extract d known).facts.filter p = (f.extract d' known).facts.filter p) :
    (d.extract known).facts.filter p = (d'.extract known).facts.filter p := by
  rw [facts_eq_flatMap sound, facts_eq_flatMap sound', List.filter_flatMap, List.filter_flatMap]
  exact congrArg List.flatten (List.map_congr_left fun f _ =>
    same f (failure_family sound f) (failure_family sound' f))

end Device.DiffersAt

/-- **Editing a structure is local.** Let two devices differ at most in one named structure of a
family, and let both be written without a failure. Then their facts of each kind that do not start
with its name have the same fields in the same order, the warnings that are not about it are the
same in the same order, and the bins of all other families have the same texts. -/
theorem Device.edit_is_local {name : String} {d d' : Device} {family : Family}
    {known : CommunitySet} {bins bins' : Bins} {ws ws' : List Warning}
    (edited : d.DiffersAt name family d') (written : d.writeAlone known = (.ok bins, ws))
    (written' : d'.writeAlone known = (.ok bins', ws')) :
    bins = .ofFacts (d.extract known).facts ∧ bins' = .ofFacts (d'.extract known).facts ∧
      (∀ k, (Fact.tuples k (d.extract known).facts).filter
          (fun t => t.head? ≠ some (toString (qualify d.hostname name))) =
        (Fact.tuples k (d'.extract known).facts).filter
          (fun t => t.head? ≠ some (toString (qualify d.hostname name)))) ∧
      (ws.filter fun w => w.about ≠ qualify d.hostname name) =
        (ws'.filter fun w => w.about ≠ qualify d.hostname name) ∧
      ∀ k, k.family? ≠ some family → bins.get k = bins'.get k := by
  have sound := failure_eq_none_of_writeAlone (congrArg Prod.fst written)
  have sound' := failure_eq_none_of_writeAlone (congrArg Prod.fst written')
  obtain ⟨⟨⟩, rfl⟩ := Prod.mk.inj (written.symm.trans (writeAlone_eq_of_none sound))
  obtain ⟨⟨⟩, rfl⟩ := Prod.mk.inj (written'.symm.trans (writeAlone_eq_of_none sound'))
  have facts := DiffersAt.filter_extract (p := Fact.spares (qualify d.hostname name)) sound sound'
    fun f passed passed' => by
      by_cases own : f = family
      · subst own
        exact edited.filter_facts passed passed'
      · rw [edited.extract_eq own]
  refine ⟨rfl, rfl, fun k => ?_, ?_, fun k other => ?_⟩
  · have tuples (fs : List Fact) : (Fact.tuples k fs).filter
        (fun t => t.head? ≠ some (toString (qualify d.hostname name))) =
          Fact.tuples k (fs.filter (Fact.spares (qualify d.hostname name))) := by
      rw [Fact.tuples, Fact.tuples, List.filter_map, List.filter_filter, List.filter_filter]
      congr 2
      funext f
      exact Bool.and_comm ..
    rw [tuples, tuples, facts]
  · rw [(d.warns known).complete sound, (d'.warns known).complete sound', warnings, warnings,
      List.filter_flatMap, List.filter_flatMap]
    exact congrArg List.flatten (List.map_congr_left fun f _ => edited.filter_warnings f)
  · rw [Bins.get_ofFacts, Bins.get_ofFacts, Fact.text, Fact.text,
      DiffersAt.filter_extract sound sound' fun f _ _ => ?_]
    by_cases own : f = family
    · subst own
      rw [edited.filter_kind other, edited.filter_kind other]
    · rw [edited.extract_eq own]

/-- The device with a further access list in front of the other one: a line that is skipped and a
line that accepts. -/
def Device.rejectingThird : Device :=
  { rejectingSecond with
    accessLists := rejectingSecond.accessLists.insert "AAA" ⟨[
      ⟨.accept, .ip, .zero, .ofNat 256, .zero, .zero, [], []⟩,
      ⟨.accept, .tcp, .zero, .zero, .zero, .zero, [], [⟨80, 80⟩]⟩]⟩ }

theorem Device.edit_is_local_rejectingThird :
    rejectingSecond.DiffersAt "AAA" .accessLists rejectingThird ∧
      ∃ bins ws bins' ws', rejectingSecond.writeAlone .empty = (.ok bins, ws) ∧
        rejectingThird.writeAlone .empty = (.ok bins', ws') ∧
        (ws'.filter fun w => w.about ≠ qualify "r0" "AAA") =
          [.accessListLine (qualify "r0" "ACL") 0] ∧
        (Fact.tuples .accessListDenyLine (rejectingThird.extract .empty).facts).filter
          (fun t => t.head? ≠ some "r0:AAA") = [["r0:ACL", "1"]] := by
  have edited : rejectingSecond.DiffersAt "AAA" .accessLists rejectingThird :=
    .accessList fun other different =>
      (SortedMap.get?_insert_of_ne rejectingSecond.accessLists different.symm _).symm
  have written : rejectingSecond.writeAlone .empty = _ := writeAlone_eq_of_none (by decide +kernel)
  have written' : rejectingThird.writeAlone .empty = _ := writeAlone_eq_of_none (by decide +kernel)
  obtain ⟨_, _, tuples, warnings, _⟩ := edit_is_local edited written written'
  refine ⟨edited, _, _, _, _, written, written', warnings.symm.trans ?_,
    (tuples .accessListDenyLine).symm.trans ?_⟩
  · decide +kernel
  · decide +kernel

end ConfigFacts
