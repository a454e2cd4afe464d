import ConfigFacts.Proofs.Policies.Lines
import ConfigFacts.Proofs.Wire.Reading

/-!
# Conditions of clauses

A match line names conditions, and each condition becomes a fact of its own. The match lines of a
clause leave the facts of its conditions behind, in order (`PolicyClause.matchFacts_eq`). So two
clauses with the same facts name the same conditions (`PolicyClause.SameFacts.mem_conditions_iff`).
Clauses with the same bins have the same facts, unless a line feed in a name blurs the bins
(`PolicyClause.sameFacts_of_matchBins`). How the lines group the conditions is not in the facts.
-/

namespace ConfigFacts

/-- Lines with one front are told apart by what stands behind it. -/
theorem Text.lines_injective {front : List Char} {xs ys : List (List Char)}
    (left : ∀ x ∈ xs, '\n' ∉ x) (right : ∀ y ∈ ys, '\n' ∉ y)
    (same : (xs.flatMap fun x => front ++ (x ++ ['\n'])) =
      ys.flatMap fun y => front ++ (y ++ ['\n'])) : xs = ys := by
  induction xs generalizing ys with
  | nil =>
      cases ys with
      | nil => rfl
      | cons y ys => simp at same
  | cons x xs ih =>
      cases ys with
      | nil => simp at same
      | cons y ys =>
          simp only [List.flatMap_cons, List.append_assoc, List.append_cancel_left_eq,
            List.singleton_append] at same
          -- The first lines end at their first line feeds, and what follows is the same.
          have pieces := congrArg (cutBehind '\n') same
          rw [cutBehind_append_cons (left x List.mem_cons_self),
            cutBehind_append_cons (right y List.mem_cons_self)] at pieces
          obtain rfl := List.head_eq_of_cons_eq pieces
          have rest := List.tail_eq_of_cons_eq (List.append_cancel_left same)
          rw [ih (fun z later => left z (List.mem_cons_of_mem _ later))
            (fun z later => right z (List.mem_cons_of_mem _ later)) rest]

/-- A condition on a route that a match line may name. -/
inductive Condition where
  /-- An AS-path access list matches the AS path. -/
  | asPathAccessList (name : String)
  /-- A community list matches the communities. -/
  | communityList (name : String)
  /-- An access list permits the network. -/
  | accessList (name : String)
  /-- The route comes from a neighbor. -/
  | neighbor (address : Address)
  /-- The route comes from a protocol. -/
  | protocol (protocol : RoutingProtocol)
  /-- A route filter permits the network. -/
  | routeFilter (name : String)
  /-- The route carries a tag. -/
  | tag (tag : UInt32)
  deriving DecidableEq

/-- The conditions that a match line names. -/
def MatchLine.conditions : MatchLine → List Condition
  | .asPathAccessLists names => names.map .asPathAccessList
  | .communityLists names => names.map .communityList
  | .accessLists names => names.map .accessList
  | .neighbor address => [.neighbor address]
  | .protocols ps => ps.map .protocol
  | .routeFilters names => names.map .routeFilter
  | .tags values => values.map .tag

def PolicyClause.conditions (clause : PolicyClause) : List Condition :=
  clause.matchLines.flatMap MatchLine.conditions

namespace PolicyClause

/-- The facts of the match lines of a clause. -/
def matchFacts (hostname : String) (map : QualifiedName) (i : Nat) (clause : PolicyClause) :
    List Fact :=
  (Extraction.each clause.matchLines (Device.matchLineOf hostname map i)).facts

/-- Clauses whose match lines leave the same facts behind. -/
def SameFacts (hostname : String) (map : QualifiedName) (i : Nat) (clause other : PolicyClause) :
    Prop :=
  ∀ f, f ∈ clause.matchFacts hostname map i ↔ f ∈ other.matchFacts hostname map i

/-- The bins into which the match lines of a clause alone are written. -/
def matchBins (hostname : String) (map : QualifiedName) (i : Nat)
    (clause : PolicyClause) : Bins :=
  ((clause.matchLines.forM (Device.writeMatchLine hostname map i)).perform .empty).2.bins

end PolicyClause

namespace Condition

/-- The kind of the fact of a condition, unless no fact can express it. -/
def kind? : Condition → Option FactKind
  | asPathAccessList _ => none
  | communityList _ => some .clauseMatchCommunityList
  | accessList _ => some .clauseMatchAccessList
  | neighbor _ => some .clauseMatchNeighbor
  | protocol _ => some .clauseMatchProtocol
  | routeFilter _ => some .clauseMatchRouteFilter
  | tag _ => some .clauseMatchTag

/-- What a condition is about, as its fact has it. -/
def field (hostname : String) : Condition → Field
  | asPathAccessList name | communityList name | accessList name | routeFilter name =>
    qualify hostname name
  | neighbor address => address
  | protocol p => toString p
  | tag value => value

/-- What a condition is about, as its line has it. -/
def label : Condition → String
  | asPathAccessList name | communityList name | accessList name | routeFilter name => name
  | neighbor address => toString address.toNat
  | protocol p => toString p
  | tag value => toString value.toNat

/-- What stands in facts of a kind before the label of their condition: structures are named together
with their device. -/
def owner (hostname : String) (k : FactKind) : String :=
  if k ∈ [.clauseMatchNeighbor, .clauseMatchProtocol, .clauseMatchTag] then ""
  else hostname ++ ":"

/-- The fact of a condition of a clause. -/
def fact? (hostname : String) (map : QualifiedName) (i : Nat) (c : Condition) : Option Fact :=
  c.kind?.map fun k => ⟨k, [map, i, c.field hostname]⟩

variable (hostname : String) (map : QualifiedName) (i : Nat)

/-- Conditions of one kind are told apart by their labels. -/
theorem eq_of_label {c d : Condition} (kind : c.kind? = d.kind?) (supported : c.kind? ≠ none)
    (same : c.label = d.label) : c = d := by
  have protocols : ∀ p q : RoutingProtocol, toString p = toString q → p = q := by
    intro p q
    cases p <;> cases q <;> decide
  cases c with
  | asPathAccessList => exact absurd rfl supported
  | communityList | accessList | routeFilter =>
      cases d <;> cases kind
      exact congrArg _ same
  | neighbor address =>
      cases d <;> cases kind
      have bits := BitVec.eq_of_toNat_eq (Text.number_injective same)
      exact congrArg (fun bits => neighbor ⟨bits⟩) bits
  | protocol =>
      cases d <;> cases kind
      exact congrArg protocol (protocols _ _ same)
  | tag =>
      cases d <;> cases kind
      exact congrArg tag (UInt32.toNat_inj.1 (Text.number_injective same))

private theorem render_field {c : Condition} {k : FactKind} (kind : c.kind? = some k) :
    (c.field hostname).render = owner hostname k ++ c.label := by
  cases c <;> cases kind
  case neighbor | protocol | tag => exact String.empty_append.symm
  all_goals rfl

/-- Conditions are told apart by their facts. -/
theorem eq_of_fact? {c d : Condition} {f : Fact} (left : c.fact? hostname map i = some f)
    (right : d.fact? hostname map i = some f) : c = d := by
  obtain ⟨k, kind, rfl⟩ := Option.map_eq_some_iff.1 left
  obtain ⟨other, kind', facts⟩ := Option.map_eq_some_iff.1 right
  simp only [Fact.mk.injEq, List.cons.injEq, and_true, true_and] at facts
  obtain ⟨rfl, fields⟩ := facts
  have texts : owner hostname other ++ c.label = owner hostname other ++ d.label := by
    rw [← render_field hostname kind, ← render_field hostname kind', fields]
  exact eq_of_label (kind.trans kind'.symm) (kind ▸ Option.some_ne_none _)
    (String.append_right_inj _ |>.1 texts)

/-- Conditions that a fact can express are read off the facts. -/
theorem mem_iff_of_facts {cs ds : List Condition}
    (same : ∀ f, f ∈ cs.filterMap (fact? hostname map i) ↔ f ∈ ds.filterMap (fact? hostname map i))
    {c : Condition} (supported : c.kind? ≠ none) : c ∈ cs ↔ c ∈ ds := by
  obtain ⟨k, kind⟩ := Option.ne_none_iff_exists'.1 supported
  have own : c.fact? hostname map i = some ⟨k, [map, i, c.field hostname]⟩ := by
    rw [fact?, kind, Option.map_some]
  have listed (es : List Condition) : c ∈ es ↔
      ⟨k, [map, i, c.field hostname]⟩ ∈ es.filterMap (fact? hostname map i) := by
    rw [List.mem_filterMap]
    constructor
    · exact fun member => ⟨c, member, own⟩
    · rintro ⟨e, member, fact⟩
      rwa [eq_of_fact? hostname map i own fact]
  rw [listed cs, listed ds, same]

/-- The lines of conditions of one kind only differ in their labels. -/
theorem line_fact {c : Condition} {k : FactKind} (kind : c.kind? = some k) :
    (Fact.mk k [map, i, c.field hostname]).line =
      toString map ++ "|" ++ toString i ++ "|" ++ owner hostname k ++ c.label := by
  simp only [Fact.line, List.map_cons, List.map_nil, String.intercalate_cons_cons,
    String.intercalate_singleton, render_field hostname kind, String.append_assoc]
  rfl

/-- The facts of one kind are those of the conditions of this kind. -/
theorem filter_fact? (k : FactKind) (cs : List Condition) :
    (cs.filterMap (fact? hostname map i)).filter (fun f => f.kind = k) =
      (cs.filter fun c => c.kind? = some k).map fun c => ⟨k, [map, i, c.field hostname]⟩ := by
  induction cs with
  | nil => rfl
  | cons c cs ih =>
      cases kind : c.kind? with
      | none => simp [fact?, kind, ih]
      | some own =>
          by_cases same : own = k
          · simp [fact?, kind, same, ih]
          · simp [fact?, kind, same, ih]

/-- The text of conditions: a line for each of those that belong to the kind. -/
theorem toList_text (k : FactKind) (cs : List Condition) :
    (Fact.text k (cs.filterMap (fact? hostname map i))).toList =
      ((cs.filter fun c => c.kind? = some k).map fun c => c.label.toList).flatMap fun label =>
        (toString map ++ "|" ++ toString i ++ "|" ++ owner hostname k).toList
          ++ (label ++ ['\n']) := by
  have lines : ((cs.filter fun c => c.kind? = some k).map fun c =>
      (Fact.mk k [map, i, c.field hostname]).line.toList) =
        ((cs.filter fun c => c.kind? = some k).map fun c => c.label.toList).map fun label =>
          (toString map ++ "|" ++ toString i ++ "|" ++ owner hostname k).toList ++ label := by
    rw [List.map_map]
    refine List.map_congr_left fun c member => ?_
    have kind : c.kind? = some k := of_decide_eq_true (List.mem_filter.1 member).2
    rw [line_fact hostname map i kind, String.toList_append]
    rfl
  rw [Fact.toList_text, filter_fact?, List.map_map]
  refine (congrArg (List.flatMap _) lines).trans ?_
  simp only [List.flatMap_map, List.append_assoc]

/-- Conditions whose labels have no line feed are read off their texts. -/
theorem mem_iff_of_text {cs ds : List Condition}
    (left : ∀ c ∈ cs, '\n' ∉ c.label.toList) (right : ∀ d ∈ ds, '\n' ∉ d.label.toList)
    (same : ∀ k, Fact.text k (cs.filterMap (fact? hostname map i)) =
      Fact.text k (ds.filterMap (fact? hostname map i))) {c : Condition}
    (supported : c.kind? ≠ none) : c ∈ cs ↔ c ∈ ds := by
  obtain ⟨k, kind⟩ := Option.ne_none_iff_exists'.1 supported
  have labels : (cs.filter fun c => c.kind? = some k).map (fun c => c.label.toList) =
      (ds.filter fun c => c.kind? = some k).map fun c => c.label.toList := by
    refine Text.lines_injective ?_ ?_ ((toList_text hostname map i k cs).symm.trans
      ((congrArg String.toList (same k)).trans (toList_text hostname map i k ds)))
    · exact List.forall_mem_map.2 fun c member => left c (List.mem_filter.1 member).1
    · exact List.forall_mem_map.2 fun d member => right d (List.mem_filter.1 member).1
  have listed (es : List Condition) : c ∈ es ↔
      c.label.toList ∈ (es.filter fun e => e.kind? = some k).map fun e => e.label.toList := by
    rw [List.mem_map]
    constructor
    · exact fun member => ⟨c, List.mem_filter.2 ⟨member, decide_eq_true kind⟩, rfl⟩
    · rintro ⟨e, member, label⟩
      obtain ⟨present, own⟩ := List.mem_filter.1 member
      have equal : e = c := eq_of_label ((of_decide_eq_true own).trans kind.symm)
        (by simp [of_decide_eq_true own]) (String.toList_inj.1 label)
      exact equal ▸ present
  rw [listed cs, listed ds, labels]

end Condition

/-- The facts of a match line are those of the conditions that it names. -/
theorem MatchLine.facts_eq (hostname : String) (map : QualifiedName) (i : Nat) (line : MatchLine) :
    (ClauseLine.matching line).facts hostname map i =
      line.conditions.filterMap (Condition.fact? hostname map i) := by
  cases line with
  | neighbor => rfl
  | asPathAccessLists names =>
      rw [MatchLine.conditions, List.filterMap_map]
      exact (List.filterMap_eq_nil_iff.2 fun _ _ => rfl).symm
  | communityLists values | accessLists values | protocols values | routeFilters values
    | tags values =>
      rw [MatchLine.conditions, List.filterMap_map, ClauseLine.facts, ClauseLine.values]
      simp only [ClauseLine.kind?, List.map_map]
      exact (congrFun List.filterMap_eq_map values).symm

namespace PolicyClause

/-- No name that the match lines of a clause use has a line feed in it. -/
def NamesNoFeed (clause : PolicyClause) : Prop :=
  ∀ c ∈ clause.conditions, '\n' ∉ c.label.toList

instance (clause : PolicyClause) : Decidable clause.NamesNoFeed :=
  inferInstanceAs (Decidable (∀ c ∈ clause.conditions, '\n' ∉ c.label.toList))

variable (hostname : String) (map : QualifiedName) (i : Nat) {clause other : PolicyClause}

/-- The match lines of a clause leave the facts of its conditions behind. -/
theorem matchFacts_eq (clause : PolicyClause) : clause.matchFacts hostname map i =
    clause.conditions.filterMap (Condition.fact? hostname map i) := by
  have silent (line : MatchLine) : (Device.matchLineOf hostname map i line).failure = none :=
    ClauseLine.failure_extract hostname map i (.matching line)
  have facts (line : MatchLine) : (Device.matchLineOf hostname map i line).facts =
      line.conditions.filterMap (Condition.fact? hostname map i) :=
    (ClauseLine.facts_extract hostname map i (.matching line)).trans (line.facts_eq hostname map i)
  rw [matchFacts, Extraction.facts_each_of_none _ fun line _ => silent line, conditions,
    List.filterMap_flatMap]
  simp only [facts]

/-- The bins of the match lines hold their facts. -/
theorem matchBins_eq (clause : PolicyClause) : clause.matchBins hostname map i =
    .ofFacts (clause.matchFacts hostname map i) := by
  have written : Writing.Writes (clause.matchLines.forM (Device.writeMatchLine hostname map i))
      (.each clause.matchLines (Device.matchLineOf hostname map i)) :=
    .each fun line _ => Device.writes_matchLine hostname map i line
  rw [matchBins, written]
  rfl

variable {hostname map i}

/-- Clauses with the same facts name the same conditions. -/
theorem SameFacts.mem_conditions_iff (same : clause.SameFacts hostname map i other) {c : Condition}
    (supported : c.kind? ≠ none) : c ∈ clause.conditions ↔ c ∈ other.conditions := by
  refine Condition.mem_iff_of_facts hostname map i (fun f => ?_) supported
  simpa only [matchFacts_eq] using same f

/-- Clauses that name the same conditions have the same facts. -/
theorem sameFacts_of_mem_conditions_iff
    (same : ∀ c : Condition, c.kind? ≠ none → (c ∈ clause.conditions ↔ c ∈ other.conditions)) :
    clause.SameFacts hostname map i other := by
  intro f
  rw [matchFacts_eq, matchFacts_eq, List.mem_filterMap, List.mem_filterMap]
  refine exists_congr fun c => and_congr_left fun fact => same c fun none => ?_
  rw [Condition.fact?, none] at fact
  cases fact

/-- Clauses with the same bins have the same facts, unless a line feed blurs their names. -/
theorem sameFacts_of_matchBins (left : clause.NamesNoFeed) (right : other.NamesNoFeed)
    (same : clause.matchBins hostname map i = other.matchBins hostname map i) :
    clause.SameFacts hostname map i other := by
  refine sameFacts_of_mem_conditions_iff fun c supported =>
    Condition.mem_iff_of_text hostname map i left right (fun k => ?_) supported
  have texts := congrArg (fun bins => bins.get k) same
  simpa only [matchBins_eq, matchFacts_eq, Bins.get_ofFacts] using texts

end PolicyClause

end ConfigFacts
