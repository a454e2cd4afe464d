import ConfigFacts.Proofs.Relations.Keys

/-!
# Warnings

What no fact can express is skipped with a warning: lines of access lists whose free bits are not
the last ones, match lines on the AS path, set lines that prepend AS numbers or remove all
communities, and route-filter lines on the way to a more specific network. `Device.warningTexts`
lists these constructs of a device. A device that does not fail is warned about exactly them, in this
order; a device that fails is warned about the first of them, and nothing that is warned about has
any facts (`Device.warnings_are_exact`).
-/

namespace ConfigFacts

/-! ### What is warned about -/

/-- The form of all warnings: what is skipped, and why. -/
def Warning.text (context remark : String) : String :=
  s!"WARNING: {context}: {remark}"

/-- The text about a line of an access list in a context like `IpAccessList r0:ACL line 0`. -/
def AccessListLine.warningText? (context : String) (line : AccessListLine) : Option String :=
  if line.isValid then none
  else some <| Warning.text context <|
    "ignored (will never be matched) because we do not know how to handle "
      ++ "non-trailing wildcard bits"

/-- The text about a match line of a clause in a context like `r0:PM:0`. -/
def MatchLine.warningText? (context : String) : MatchLine → Option String
  | .asPathAccessLists _ =>
    some (Warning.text context "Policy map matching of AS path acls not implemented!")
  | _ => none

/-- The text about a set line of a clause in a context like `r0:PM:0`. -/
def SetLine.warningText? (context : String) : SetLine → Option String
  | .asPathPrepend _ => some (Warning.text context "AS_PATH_PREPEND not implemented")
  | .clearCommunities => some (Warning.text context "COMMUNITY_NONE not implemented")
  | _ => none

/-- The text about a line of a route filter in a context like `r0:RF:0`. -/
def RouteFilterLine.warningText? (context : String) : RouteFilterLine → Option String
  | .lengthRange _ _ _ _ => none
  | .through _ _ _ _ _ => some (Warning.text context "route-filter through not implemented")

/-- The texts of the warnings that a device deserves: about its access lists, its policy maps and its
route filters, each by name, line by line or clause by clause. -/
def Device.warningTexts (d : Device) : List String :=
  (d.accessLists.entries.flatMap fun (name, list) =>
    list.lines.zipIdx.filterMap fun (line, i) =>
      line.warningText? s!"IpAccessList {d.hostname}:{name} line {i}")
  ++ (d.policyMaps.entries.flatMap fun (name, map) =>
    map.clauses.zipIdx.flatMap fun (clause, i) =>
      clause.matchLines.filterMap (MatchLine.warningText? s!"{d.hostname}:{name}:{i}")
        ++ clause.setLines.filterMap (SetLine.warningText? s!"{d.hostname}:{name}:{i}"))
  ++ d.routeFilters.entries.flatMap fun (name, filter) =>
    filter.lines.zipIdx.filterMap fun (line, i) =>
      line.warningText? s!"{d.hostname}:{name}:{i}"

/-- The warning about a line of an access list. -/
def AccessListLine.warning? (list : QualifiedName) (i : Nat) (line : AccessListLine) :
    Option Warning :=
  if line.isValid then none else some (.accessListLine list i)

/-- The warning about a line of a route filter. -/
def RouteFilterLine.warning? (list : QualifiedName) (i : Nat) : RouteFilterLine → Option Warning
  | .lengthRange _ _ _ _ => none
  | .through _ _ _ _ _ => some (.throughLine list i)

/-- The warnings that the constructs of a family deserve. -/
def Family.warnings (d : Device) : Family → List Warning
  | accessLists => d.accessLists.entries.flatMap fun (name, list) =>
    list.lines.zipIdx.filterMap fun (line, i) => line.warning? (qualify d.hostname name) i
  | policyMaps => d.policyMaps.entries.flatMap fun (name, map) =>
    map.clauses.zipIdx.flatMap fun (clause, i) =>
      clause.lines.filterMap (ClauseLine.warning? (qualify d.hostname name) i)
  | routeFilters => d.routeFilters.entries.flatMap fun (name, filter) =>
    filter.lines.zipIdx.filterMap fun (line, i) => line.warning? (qualify d.hostname name) i
  | _ => []

def Device.warnings (d : Device) : List Warning :=
  Family.all.flatMap fun f => f.warnings d

section texts

variable (hostname name : String) (i : Nat)

private theorem AccessListLine.message_warning? (line : AccessListLine) :
    (line.warning? (qualify hostname name) i).map Warning.message =
      line.warningText? s!"IpAccessList {hostname}:{name} line {i}" := by
  have context : s!"IpAccessList {hostname}:{name} line {i}" =
      s!"IpAccessList {qualify hostname name} line {i}" := by
    change "IpAccessList " ++ hostname ++ ":" ++ name ++ " line " ++ toString i =
      "IpAccessList " ++ (hostname ++ ":" ++ name) ++ " line " ++ toString i
    simp only [String.append_assoc]
  rw [context, warning?, warningText?]
  split <;> rfl

private theorem RouteFilterLine.message_warning? (line : RouteFilterLine) :
    (line.warning? (qualify hostname name) i).map Warning.message =
      line.warningText? s!"{hostname}:{name}:{i}" := by
  cases line <;> rfl

private theorem PolicyClause.message_warnings (clause : PolicyClause) :
    (clause.lines.filterMap (ClauseLine.warning? (qualify hostname name) i)).map Warning.message =
      clause.matchLines.filterMap (MatchLine.warningText? s!"{hostname}:{name}:{i}")
        ++ clause.setLines.filterMap (SetLine.warningText? s!"{hostname}:{name}:{i}") := by
  have matching (line : MatchLine) : ((ClauseLine.matching line).warning? (qualify hostname name)
      i).map Warning.message = line.warningText? s!"{hostname}:{name}:{i}" := by
    cases line <;> rfl
  have setting (line : SetLine) : ((ClauseLine.setting line).warning? (qualify hostname name)
      i).map Warning.message = line.warningText? s!"{hostname}:{name}:{i}" := by
    cases line <;> rfl
  rw [lines, List.filterMap_append, List.filterMap_map, List.filterMap_map, List.map_append,
    List.map_filterMap, List.map_filterMap]
  simp only [Function.comp_apply, matching, setting]

end texts

/-- The messages of the warnings of a device are the texts that it deserves. -/
theorem Device.map_message_warnings (d : Device) :
    d.warnings.map Warning.message = d.warningTexts := by
  simp only [warnings, Family.all, List.flatMap_cons, List.flatMap_nil, Family.warnings,
    List.nil_append, List.append_nil, List.map_append, List.map_flatMap,
    PolicyClause.message_warnings]
  simp only [List.map_filterMap, AccessListLine.message_warning?,
    RouteFilterLine.message_warning?, warningTexts, List.append_assoc]

/-! ### Which warnings are raised -/

/-- An extraction raises the first of some warnings, and all of them unless it fails. -/
structure Extraction.Warns (e : Extraction) (ws : List Warning) : Prop where
  start : e.warnings <+: ws
  complete : e.failure = none → e.warnings = ws

namespace Extraction.Warns

variable {e e' : Extraction} {ws ws' : List Warning} {α : Type}

theorem of_eq (raised : e.warnings = ws) : e.Warns ws :=
  ⟨raised ▸ List.prefix_refl _, fun _ => raised⟩

/-- Extractions one after the other raise the warnings of both. -/
theorem append (first : e.Warns ws) (second : e'.Warns ws') : (e ++ e').Warns (ws ++ ws') := by
  cases failed : e.failure with
  | none =>
      rw [append_of_none e' failed]
      have all := first.complete failed
      refine ⟨?_, fun sound => ?_⟩
      · rw [all]
        exact (List.prefix_append_right_inj ws).2 second.start
      · rw [all, second.complete sound]
  | some failure =>
      rw [append_of_failure e' failed]
      exact ⟨first.start.trans (List.prefix_append ws ws'), fun sound => by
        rw [failed] at sound; cases sound⟩

/-- Many extractions one after the other raise the warnings of all. -/
theorem each {extract : α → Extraction} {warnings : α → List Warning} (xs : List α)
    (element : ∀ x, (extract x).Warns (warnings x)) :
    (Extraction.each xs extract).Warns (xs.flatMap warnings) := by
  induction xs with
  | nil => exact of_eq rfl
  | cons x xs ih => exact (element x).append ih

/-- Extractions that each raise a warning at most raise those that there are. -/
theorem filterMap {extract : α → Extraction} {warning? : α → Option Warning} (xs : List α)
    (element : ∀ x, (extract x).Warns (warning? x).toList) :
    (Extraction.each xs extract).Warns (xs.filterMap warning?) := by
  rw [List.filterMap_eq_flatMap_toList]
  exact each xs element

end Extraction.Warns

open Extraction (Warns)

namespace Device

private theorem warns_accessLine (list : QualifiedName) (i : Nat) (line : AccessListLine) :
    (accessLineOf list i line).Warns (line.warning? list i).toList := by
  unfold accessLineOf AccessListLine.warning?
  split
  · have action : (accessActionOf list i line.action).Warns [] := by
      cases line.action <;> exact .of_eq rfl
    exact ((Warns.of_eq rfl).append action).append (.of_eq rfl)
  · exact .of_eq rfl

private theorem warns_filterLine (list : QualifiedName) (i : Nat) (line : RouteFilterLine) :
    (filterLineOf list i line).Warns (line.warning? list i).toList := by
  cases line with
  | through => exact .of_eq rfl
  | lengthRange action =>
      have mark : (filterActionOf list i action).Warns [] := by cases action <;> exact .of_eq rfl
      exact Warns.append (.of_eq rfl) mark

private theorem warns_communityLine (known : CommunitySet) (list : QualifiedName) (i : Nat)
    (line : CommunityListLine) : (communityLineOf known list i line).Warns [] := by
  unfold communityLineOf
  cases line.matching? known with
  | none => exact .of_eq rfl
  | some cs =>
      have mark : (communityActionOf list i line.action).Warns [] := by
        cases line.action <;> exact .of_eq rfl
      exact Warns.append (.of_eq rfl) mark

private theorem warns_clause (hostname : String) (map : QualifiedName) (i : Nat)
    (clause : PolicyClause) :
    (clauseOf hostname map i clause).Warns
      (clause.lines.filterMap (ClauseLine.warning? map i)) := by
  have action : (clauseActionOf map i clause.action).Warns [] := by
    cases clause.action <;> exact .of_eq rfl
  rw [clauseOf_eq]
  exact action.append (.filterMap _ fun line => .of_eq (by rw [ClauseLine.extract_eq]))

private theorem warns_switchport (d : Device) (name : String) (i : Interface) :
    (d.switchportOf name i).Warns [] := by
  unfold switchportOf
  cases i.switchport <;> exact .of_eq rfl

private theorem warns_outboundPolicy (d : Device) (policy : OspfOutboundPolicy) :
    (d.outboundPolicyOf policy).Warns [] := by
  unfold outboundPolicyOf
  cases externalProtocol? policy.metricType <;> exact .of_eq rfl

end Device

/-- A family raises the warnings on its constructs. -/
theorem Family.warns (f : Family) (d : Device) (known : CommunitySet) :
    (f.extract d known).Warns (f.warnings d) := by
  have silent {α : Type} (xs : List α) {extract : α → Extraction}
      (element : ∀ x, (extract x).Warns []) : (Extraction.each xs extract).Warns [] := by
    have none : (xs.flatMap fun _ => ([] : List Warning)) = [] :=
      List.flatMap_eq_nil_iff.2 fun _ _ => rfl
    exact none ▸ Warns.each xs element
  cases f with
  | accessLists => exact .each _ fun _ => .filterMap _ fun _ => Device.warns_accessLine _ _ _
  | policyMaps => exact .each _ fun _ => .each _ fun _ => Device.warns_clause _ _ _ _
  | routeFilters => exact .each _ fun _ => .filterMap _ fun _ => Device.warns_filterLine _ _ _
  | switchports => exact silent _ fun _ => d.warns_switchport _ _
  | outboundPolicies => exact silent _ fun _ => d.warns_outboundPolicy _
  | communityLists =>
      exact silent _ fun _ => silent _ fun _ => Device.warns_communityLine known _ _ _
  | _ => exact .of_eq rfl

/-- A device raises the warnings of its families, up to the one that fails. -/
theorem Device.warns (d : Device) (known : CommunitySet) : (d.extract known).Warns d.warnings :=
  .each _ fun f => f.warns d known

/-! ### What is warned about has no facts -/

private theorem Construct.facts_of_isSkipped {c : Construct} (skipped : c.isSkipped = true)
    (d : Device)
    (known : CommunitySet) : (c.extract d known).facts = [] := by
  cases c with
  | accessLine list i line =>
      have invalid : ¬ line.isValid = true := by simpa [isSkipped] using skipped
      rw [extract, Device.accessLineOf, if_neg invalid]
      rfl
  | filterLine list i line =>
      cases line with
      | through => rfl
      | lengthRange => cases skipped
  | _ => cases skipped

/-- No fact has the name and the position of a line that is skipped. -/
theorem Device.not_key_prefix_of_isSkipped {d : Device} {known : CommunitySet} {c : Construct}
    (held : d.Holds c) (skipped : c.isSkipped = true) {f : Fact}
    (member : f ∈ (d.extract known).facts) (own : f.kind.family? = some c.family) :
    ¬ c.key d.hostname <+: f.fields := by
  intro key
  have listed : c.family ≠ .outboundPolicies := by
    cases c with
    | outboundPolicy => cases skipped
    | _ => exact nofun
  have found := mem_extract_of_key held listed member own key
  rw [c.facts_of_isSkipped skipped] at found
  cases found

/-- A clause without the lines that no fact can express. -/
def PolicyClause.pruned (clause : PolicyClause) : PolicyClause where
  action := clause.action
  matchLines := clause.matchLines.filter fun line => (ClauseLine.matching line).kind?.isSome
  setLines := clause.setLines.filter fun line => (ClauseLine.setting line).kind?.isSome

/-- A map with other values under the same keys. -/
def SortedMap.mapValues {κ α β : Type} [Ord κ] (f : α → β) (m : SortedMap κ α) : SortedMap κ β where
  entries := m.entries.map fun e => (e.1, f e.2)
  sorted := List.pairwise_map.2 m.sorted

/-- A device without the match lines and set lines that no fact can express. -/
def Device.pruned (d : Device) : Device :=
  { d with policyMaps := d.policyMaps.mapValues fun map => ⟨map.clauses.map PolicyClause.pruned⟩ }

/-- Two extractions have the same facts and the same failure, perhaps with different warnings. -/
structure Extraction.Agrees (a b : Extraction) : Prop where
  facts : a.facts = b.facts
  failure : a.failure = b.failure

namespace Extraction.Agrees

variable {a a' b b' : Extraction} {α : Type}

theorem refl (a : Extraction) : a.Agrees a :=
  ⟨rfl, rfl⟩

/-- What agrees in two parts agrees as a whole. -/
theorem append (first : a.Agrees a') (second : b.Agrees b') : (a ++ b).Agrees (a' ++ b') := by
  cases failed : a.failure with
  | none =>
      rw [append_of_none b failed, append_of_none b' (first.failure.symm.trans failed)]
      exact ⟨by rw [first.facts, second.facts], second.failure⟩
  | some failure =>
      rwa [append_of_failure b failed, append_of_failure b' (first.failure.symm.trans failed)]

/-- Extractions that agree one by one agree one after the other. -/
theorem each {extract extract' : α → Extraction} (xs : List α)
    (element : ∀ x, (extract x).Agrees (extract' x)) :
    (Extraction.each xs extract).Agrees (Extraction.each xs extract') := by
  induction xs with
  | nil => exact refl _
  | cons x xs ih => exact (element x).append ih

end Extraction.Agrees

open Extraction (Agrees)

private theorem PolicyClause.lines_pruned (clause : PolicyClause) :
    clause.pruned.lines = clause.lines.filter fun line => line.kind?.isSome := by
  rw [lines, lines, List.filter_append, List.filter_map, List.filter_map]
  rfl

/-- Lines that no fact can express do not change the facts of a clause. -/
theorem Device.clauseOf_pruned_agrees (hostname : String) (map : QualifiedName) (i : Nat)
    (clause : PolicyClause) :
    (clauseOf hostname map i clause.pruned).Agrees (clauseOf hostname map i clause) := by
  have facts (lines : List ClauseLine) :
      (lines.filter fun line => line.kind?.isSome).flatMap (ClauseLine.facts hostname map i) =
        lines.flatMap (ClauseLine.facts hostname map i) := by
    induction lines with
    | nil => rfl
    | cons line lines ih =>
        cases kind : line.kind? with
        | none =>
            have silent : line.facts hostname map i = [] := by rw [ClauseLine.facts, kind]
            rw [List.filter_cons_of_neg (by simp [kind]), ih, List.flatMap_cons, silent,
              List.nil_append]
        | some k =>
            rw [List.filter_cons_of_pos (by simp [kind]), List.flatMap_cons, List.flatMap_cons, ih]
  have passed (lines : List ClauseLine) :
      (Extraction.each lines (ClauseLine.extract hostname map i)).failure = none :=
    Extraction.failure_each_eq_none _ fun line _ => line.failure_extract hostname map i
  rw [clauseOf_eq, clauseOf_eq]
  refine (Agrees.refl _).append ⟨?_, (passed _).trans (passed _).symm⟩
  rw [ClauseLine.facts_each, ClauseLine.facts_each, PolicyClause.lines_pruned, facts]

private theorem Family.pruned_agrees (f : Family) (d : Device) (known : CommunitySet) :
    (f.extract d.pruned known).Agrees (f.extract d known) := by
  cases f with
  | policyMaps =>
      simp only [extract, Device.policyClauses, Device.pruned, SortedMap.mapValues,
        Extraction.each_map, Extraction.eachIndexed, List.zipIdx_map]
      exact .each _ fun _ => .each _ fun _ => Device.clauseOf_pruned_agrees _ _ _ _
  | _ => exact .refl _

/-- **Warnings are complete and exact.** Writing a device warns about what no fact can express, in the
order in which the device holds it: about everything unless the device fails, and otherwise about the
first such constructs. No fact has the name and the position of a line of an access list or of a
route filter that is warned about, and without the match lines and set lines that are warned about
the same facts are written. -/
theorem Device.warnings_are_exact (d : Device) (known : CommunitySet) (l : Ledger) :
    ∃ told : List Warning,
      ((d.write known).perform l).2 =
          ⟨l.bins.pushAll (d.extract known).facts, l.warnings ++ told⟩ ∧
        told.map Warning.message <+: d.warningTexts ∧
        (((d.write known).perform l).1 = .ok () → told.map Warning.message = d.warningTexts) ∧
        (∀ c, d.Holds c → c.isSkipped = true → ∀ f ∈ (d.extract known).facts,
          f.kind.family? = some c.family → ¬ c.key d.hostname <+: f.fields) ∧
        ((d.pruned.write known).perform l).1 = ((d.write known).perform l).1 ∧
        ((d.pruned.write known).perform l).2.bins = ((d.write known).perform l).2.bins := by
  have raised := d.warns known
  have agrees : (d.pruned.extract known).Agrees (d.extract known) :=
    .each _ fun f => f.pruned_agrees d known
  refine ⟨(d.extract known).warnings, by rw [d.writes known l]; rfl, ?_, fun succeeded => ?_,
    fun c held skipped f => not_key_prefix_of_isSkipped held skipped, ?_, ?_⟩
  · rw [← map_message_warnings]
    exact raised.start.map _
  · rw [d.writes known l] at succeeded
    rw [← map_message_warnings, raised.complete (Extraction.failure_eq_none_of_outcome succeeded)]
  · rw [d.pruned.writes known l, d.writes known l]
    simp only [Extraction.outcome, agrees.failure]
  · rw [d.pruned.writes known l, d.writes known l]
    simp only [Ledger.add, agrees.facts]

/-- The second line of the list frees bits in the middle of its source address. -/
example : { Device.named "r0" "cisco" with
      accessLists := .ofList [("ACL", ⟨[⟨.accept, .ip, .zero, .zero, .zero, .zero, [], []⟩,
        ⟨.accept, .tcp, .zero, .ofNat 0x00ff00ff, .zero, .zero, [], [⟨22, 22⟩]⟩]⟩)] }.warningTexts =
    ["WARNING: IpAccessList r0:ACL line 1: ignored (will never be matched) because we do not know "
      ++ "how to handle non-trailing wildcard bits"] := by
  decide +kernel

end ConfigFacts
