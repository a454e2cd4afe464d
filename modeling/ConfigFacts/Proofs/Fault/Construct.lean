import ConfigFacts.Proofs.Writing.Families

/-!
# Constructs that may be malformed

The parts of a device whose values or texts may be outside the model. `Construct.fault?` says which
failure such a part is, without writing anything; writing the part fails in exactly this way
(`Construct.failure_extract`). What it leaves behind before it fails is `Construct.leading`.
-/

namespace ConfigFacts

open Writing

/-- The action of a line of a route filter, whichever networks it matches. -/
def RouteFilterLine.action : RouteFilterLine → LineAction
  | .lengthRange action _ _ _ => action
  | .through action _ _ _ _ => action

/-- A part of a device that may be malformed, with the name and the position under which it stands
in the device. -/
inductive Construct where
  /-- A line of an access list. -/
  | accessLine (list : String) (i : Nat) (line : AccessListLine)
  /-- The layer-2 mode of an interface. -/
  | switchport (interface : String) (i : Interface)
  /-- A policy that brings routes into OSPF. -/
  | outboundPolicy (policy : OspfOutboundPolicy)
  /-- A clause of a policy map. -/
  | policyClause (map : String) (i : Nat) (clause : PolicyClause)
  /-- A line of a route filter. -/
  | filterLine (list : String) (i : Nat) (line : RouteFilterLine)
  /-- A line of a community list. -/
  | communityLine (list : String) (i : Nat) (line : CommunityListLine)

namespace Construct

/-- The family that a construct belongs to. -/
def family : Construct → Family
  | accessLine _ _ _ => .accessLists
  | switchport _ _ => .switchports
  | outboundPolicy _ => .outboundPolicies
  | policyClause _ _ _ => .policyMaps
  | filterLine _ _ _ => .routeFilters
  | communityLine _ _ _ => .communityLists

/-! ### What is wrong with a construct -/

/-- Whether a construct holds a value that is outside the model. -/
def isUnrecognized : Construct → Bool
  | accessLine _ _ line => line.action = .unrecognized
  | switchport _ i => i.switchport = .unrecognized
  | outboundPolicy policy => policy.metricType = .unrecognized
  | policyClause _ _ clause => clause.action = .unrecognized
  | filterLine _ _ line => line.action = .unrecognized
  | communityLine _ _ line => line.action = .unrecognized

/-- Whether a construct is passed over with a warning. -/
def isSkipped : Construct → Bool
  | accessLine _ _ line => !line.isValid
  | filterLine _ _ (.through _ _ _ _ _) => true
  | _ => false

/-- The failure of a construct with a value outside the model. -/
def valueFailure (hostname : String) : Construct → Failure
  | accessLine list i _ | filterLine list i _ | communityLine list i _ =>
    .lineAction (qualify hostname list) i
  | switchport interface _ => .switchport hostname interface
  | outboundPolicy policy => .metricType (qualify hostname policy.policyMap)
  | policyClause map i _ => .policyAction (qualify hostname map) i

/-- The failure of a construct whose text is no pattern. -/
def patternFailure? (hostname : String) : Construct → Option Failure
  | communityLine list i line =>
    if (Pattern.ofString? line.pattern).isNone then some (.pattern (qualify hostname list) i)
    else none
  | _ => none

/-- The failure that a construct is. What is passed over is none, and a text that is no pattern
comes before a value outside the model. -/
def fault? (hostname : String) (c : Construct) : Option Failure :=
  if c.isSkipped then none
  else (c.patternFailure? hostname).or
    (if c.isUnrecognized then some (c.valueFailure hostname) else none)

/-! ### Writing a construct -/

variable (d : Device) (communities : CommunitySet)

/-- Writes the facts of a construct. -/
def write : Construct → Writing Unit
  | accessLine list i line => Device.writeAccessLine (qualify d.hostname list) i line
  | switchport name i => d.writeSwitchport name i
  | outboundPolicy policy => d.writeOutboundPolicy policy
  | policyClause map i clause => Device.writeClause d.hostname (qualify d.hostname map) i clause
  | filterLine list i line => Device.writeFilterLine (qualify d.hostname list) i line
  | communityLine list i line =>
    Device.writeCommunityLine communities (qualify d.hostname list) i line

/-- What comes out of a construct. -/
def extract : Construct → Extraction
  | accessLine list i line => Device.accessLineOf (qualify d.hostname list) i line
  | switchport name i => d.switchportOf name i
  | outboundPolicy policy => d.outboundPolicyOf policy
  | policyClause map i clause => Device.clauseOf d.hostname (qualify d.hostname map) i clause
  | filterLine list i line => Device.filterLineOf (qualify d.hostname list) i line
  | communityLine list i line =>
    Device.communityLineOf communities (qualify d.hostname list) i line

/-- A construct is written as it is extracted. -/
theorem writes (c : Construct) : Writes (c.write d communities) (c.extract d communities) := by
  cases c with
  | accessLine list i line => exact Device.writes_accessLine _ i line
  | switchport name i => exact d.writes_switchport name i
  | outboundPolicy policy => exact d.writes_outboundPolicy policy
  | policyClause map i clause => exact Device.writes_clause _ _ i clause
  | filterLine list i line => exact Device.writes_filterLine _ i line
  | communityLine list i line => exact Device.writes_communityLine communities _ i line

/-- What a malformed construct writes before it fails: the line whose action is looked at
afterwards, and the communities that a line matches. -/
def leading : Construct → List Fact
  | accessLine list i line => [Device.accessLineFact (qualify d.hostname list) i line]
  | filterLine list i (.lengthRange _ network length lengths) =>
    [Device.filterLineFact (qualify d.hostname list) i network length lengths]
  | communityLine list i line =>
    ((line.matching? communities).getD []).map (Device.communityFact (qualify d.hostname list) i)
  | _ => []

end Construct

namespace Device

/-! ### Where writing a construct fails -/

private theorem failure_accessAction (list : QualifiedName) (i : Nat) (action : LineAction) :
    (accessActionOf list i action).failure =
      if action = .unrecognized then some (.lineAction list i) else none := by
  cases action <;> rfl

private theorem failure_filterAction (list : QualifiedName) (i : Nat) (action : LineAction) :
    (filterActionOf list i action).failure =
      if action = .unrecognized then some (.lineAction list i) else none := by
  cases action <;> rfl

private theorem failure_communityAction (list : QualifiedName) (i : Nat) (action : LineAction) :
    (communityActionOf list i action).failure =
      if action = .unrecognized then some (.lineAction list i) else none := by
  cases action <;> rfl

private theorem failure_clauseAction (map : QualifiedName) (i : Nat) (action : PolicyAction) :
    (clauseActionOf map i action).failure =
      if action = .unrecognized then some (.policyAction map i) else none := by
  cases action <;> rfl

private theorem failure_switchport (d : Device) (name : String) (i : Interface) :
    (d.switchportOf name i).failure =
      if i.switchport = .unrecognized then some (.switchport d.hostname name) else none := by
  unfold switchportOf
  cases i.switchport <;> rfl

private theorem failure_outboundPolicy (d : Device) (policy : OspfOutboundPolicy) :
    (d.outboundPolicyOf policy).failure =
      if policy.metricType = .unrecognized then some (.metricType (qualify d.hostname policy.policyMap))
      else none := by
  unfold outboundPolicyOf
  cases policy.metricType <;> rfl

/-- A clause fails with its action: match lines and set lines are warned about at most. -/
theorem failure_clause (hostname : String) (map : QualifiedName) (i : Nat) (clause : PolicyClause) :
    (clauseOf hostname map i clause).failure = (clauseActionOf map i clause.action).failure := by
  have matching : (Extraction.each clause.matchLines (matchLineOf hostname map i)).failure = none :=
    Extraction.failure_each_eq_none _ fun line _ => by cases line <;> rfl
  have setting : (Extraction.each clause.setLines (setLineOf hostname map i)).failure = none :=
    Extraction.failure_each_eq_none _ fun line _ => by cases line <;> rfl
  unfold clauseOf
  rw [Extraction.failure_append, Extraction.failure_append, matching, setting, Option.or_none,
    Option.or_none]

end Device

namespace Construct

variable (d : Device) (communities : CommunitySet)

private theorem fault?_of_isSkipped {c : Construct} (hostname : String)
    (skipped : c.isSkipped = true) :
    c.fault? hostname = none := by
  rw [fault?, if_pos skipped]

/-- A construct that is looked at and whose text is right is judged by its value. -/
theorem fault?_of_compiled {c : Construct} {hostname : String} (handled : c.isSkipped = false)
    (compiled : c.patternFailure? hostname = none) :
    c.fault? hostname =
      if c.isUnrecognized = true then some (c.valueFailure hostname) else none := by
  rw [fault?, if_neg (ne_true_of_eq_false handled), compiled, Option.none_or]

/-- Writing a construct fails exactly when the construct is malformed, and with its failure. -/
theorem failure_extract (c : Construct) :
    (c.extract d communities).failure = c.fault? d.hostname := by
  cases c with
  | accessLine list i line =>
      cases valid : line.isValid with
      | false =>
          rw [fault?_of_isSkipped _ (by simp only [isSkipped, valid, Bool.not_false])]
          simp only [extract, Device.accessLineOf, valid, Bool.false_eq_true, ↓reduceIte,
            Extraction.failure_warn]
      | true =>
          rw [fault?_of_compiled (by simp only [isSkipped, valid, Bool.not_true]) rfl]
          simp only [extract, Device.accessLineOf, valid, ↓reduceIte, Extraction.failure_append,
            Extraction.failure_ofFacts, Device.failure_accessAction, Option.none_or,
            Option.or_none, isUnrecognized, decide_eq_true_eq]
          rfl
  | switchport name i =>
      rw [fault?_of_compiled rfl rfl]
      simp only [extract, Device.failure_switchport, isUnrecognized, decide_eq_true_eq]
      rfl
  | outboundPolicy policy =>
      rw [fault?_of_compiled rfl rfl]
      simp only [extract, Device.failure_outboundPolicy, isUnrecognized, decide_eq_true_eq]
      rfl
  | policyClause map i clause =>
      rw [fault?_of_compiled rfl rfl]
      simp only [extract, Device.failure_clause, Device.failure_clauseAction, isUnrecognized,
        decide_eq_true_eq]
      rfl
  | filterLine list i line =>
      cases line with
      | lengthRange action network length lengths =>
          rw [fault?_of_compiled rfl rfl]
          simp only [extract, Device.filterLineOf, Extraction.failure_append,
            Extraction.failure_ofFacts, Device.failure_filterAction, Option.none_or,
            isUnrecognized, RouteFilterLine.action]
          cases action <;> rfl
      | through => rfl
  | communityLine list i line =>
      cases pattern : Pattern.ofString? line.pattern with
      | none =>
          simp only [extract, Device.communityLineOf, CommunityListLine.matching?, pattern,
            Option.map_none, Extraction.failure_fail, fault?, isSkipped, patternFailure?,
            Option.isNone_none, Bool.false_eq_true, ↓reduceIte, Option.some_or]
      | some p =>
          have compiled : (communityLine list i line).patternFailure? d.hostname = none := by
            simp only [patternFailure?, pattern, Option.isNone_some, Bool.false_eq_true, ↓reduceIte]
          rw [fault?_of_compiled rfl compiled]
          simp only [extract, Device.communityLineOf, CommunityListLine.matching?, pattern,
            Option.map_some, Extraction.failure_append, Extraction.failure_ofFacts,
            Device.failure_communityAction, Option.none_or, isUnrecognized, decide_eq_true_eq]
          rfl

/-- A malformed construct is not passed over, and its text or its value is wrong. -/
theorem of_fault? {c : Construct} {hostname : String} {failure : Failure}
    (faulty : c.fault? hostname = some failure) :
    c.isSkipped = false ∧ (c.patternFailure? hostname = some failure ∨ c.isUnrecognized = true) := by
  unfold fault? at faulty
  cases skipped : c.isSkipped with
  | true => simp only [skipped, ↓reduceIte, reduceCtorEq] at faulty
  | false =>
      refine ⟨rfl, ?_⟩
      simp only [skipped, Bool.false_eq_true, ↓reduceIte] at faulty
      rcases Option.or_eq_some_iff.1 faulty with pattern | ⟨_, value⟩
      · exact .inl pattern
      · right
        cases unrecognized : c.isUnrecognized with
        | true => rfl
        | false => simp only [unrecognized, Bool.false_eq_true, ↓reduceIte, reduceCtorEq] at value

/-- A malformed construct leaves its leading facts behind. -/
theorem facts_extract {c : Construct} {failure : Failure}
    (faulty : c.fault? d.hostname = some failure) :
    (c.extract d communities).facts = c.leading d communities := by
  obtain ⟨handled, wrong⟩ := of_fault? faulty
  cases c with
  | accessLine list i line =>
      have valid : line.isValid = true := by simpa only [isSkipped, Bool.not_eq_false'] using handled
      have action : line.action = .unrecognized := of_decide_eq_true (wrong.resolve_left nofun)
      simp only [extract, Device.accessLineOf, valid, action]
      rfl
  | switchport name i =>
      have mode : i.switchport = .unrecognized := of_decide_eq_true (wrong.resolve_left nofun)
      simp only [extract, Device.switchportOf, mode]
      rfl
  | outboundPolicy policy =>
      have kind : policy.metricType = .unrecognized :=
        of_decide_eq_true (wrong.resolve_left nofun)
      simp only [extract, Device.outboundPolicyOf, kind]
      rfl
  | policyClause map i clause =>
      have action : clause.action = .unrecognized := of_decide_eq_true (wrong.resolve_left nofun)
      simp only [extract, Device.clauseOf, action]
      rfl
  | filterLine list i line =>
      cases line with
      | lengthRange action network length lengths =>
          obtain rfl : action = .unrecognized := of_decide_eq_true (wrong.resolve_left nofun)
          rfl
      | through => cases handled
  | communityLine list i line =>
      cases matched : line.matching? communities with
      | none =>
          simp only [extract, Device.communityLineOf, leading, matched]
          rfl
      | some cs =>
          obtain ⟨p, pattern, _⟩ := Option.map_eq_some_iff.1 matched
          have compiled : (communityLine list i line).patternFailure? d.hostname ≠ some failure := by
            simp only [patternFailure?, pattern, Option.isNone_some, Bool.false_eq_true,
              ↓reduceIte, ne_eq, reduceCtorEq, not_false_eq_true]
          have action : line.action = .unrecognized :=
            of_decide_eq_true (wrong.resolve_left compiled)
          simp only [extract, Device.communityLineOf, leading, matched, action]
          rw [Extraction.append_of_none _ (Extraction.failure_ofFacts _)]
          exact List.append_nil _

end Construct

end ConfigFacts
