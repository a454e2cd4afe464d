import ConfigFacts.Proofs.Writing.Families

/-!
# Lines of clauses

Match lines and set lines are lowered alike. A line has facts of one kind, one for each value that it
names, or no fact can express it and it is warned about (`ClauseLine.extract_eq`). A clause is its
mark and then its lines, one after the other (`Device.clauseOf_eq`).
-/

namespace ConfigFacts

/-- A line of a clause. -/
inductive ClauseLine where
  | matching (line : MatchLine)
  | setting (line : SetLine)
  deriving DecidableEq

/-- The lines of a clause, in the order in which they are lowered. -/
def PolicyClause.lines (clause : PolicyClause) : List ClauseLine :=
  clause.matchLines.map .matching ++ clause.setLines.map .setting

namespace ClauseLine

/-- The kind of the facts of a line, unless no fact can express it. -/
def kind? : ClauseLine → Option FactKind
  | matching (.asPathAccessLists _) => none
  | matching (.communityLists _) => some .clauseMatchCommunityList
  | matching (.accessLists _) => some .clauseMatchAccessList
  | matching (.neighbor _) => some .clauseMatchNeighbor
  | matching (.protocols _) => some .clauseMatchProtocol
  | matching (.routeFilters _) => some .clauseMatchRouteFilter
  | matching (.tags _) => some .clauseMatchTag
  | setting (.addCommunities _) => some .clauseAddCommunity
  | setting (.asPathPrepend _) => none
  | setting (.setCommunities _) => some .clauseSetCommunity
  | setting .clearCommunities => none
  | setting (.deleteCommunities _) => some .clauseDeleteCommunity
  | setting (.localPreference _) => some .clauseSetLocalPreference
  | setting (.metric _) => some .clauseSetMetric
  | setting (.nextHops _) => some .clauseSetNextHop
  | setting (.originType _) => some .clauseSetOriginType

/-- The values that a line names, as they stand in its facts. -/
def values (hostname : String) : ClauseLine → List Field
  | matching (.communityLists names) | matching (.accessLists names)
  | matching (.routeFilters names) => names.map fun name => .name (qualify hostname name)
  | matching (.neighbor address) => [address]
  | matching (.protocols protocols) => protocols.map fun protocol => .text (toString protocol)
  | matching (.tags tags) => tags.map fun tag => .number tag.toNat
  | setting (.addCommunities communities) | setting (.setCommunities communities) =>
    communities.map fun community => .number community.value.toNat
  | setting (.deleteCommunities list) => [qualify hostname list]
  | setting (.localPreference value) | setting (.metric value) => [value]
  | setting (.nextHops addresses) => addresses.map fun address => .number address.toNat
  | setting (.originType origin) => [toString origin]
  | matching (.asPathAccessLists _) | setting (.asPathPrepend _) | setting .clearCommunities => []

/-- The warning about a line that no fact can express. -/
def warning? (map : QualifiedName) (i : Nat) : ClauseLine → Option Warning
  | matching (.asPathAccessLists _) => some (.asPathMatch map i)
  | setting (.asPathPrepend _) => some (.asPathPrepend map i)
  | setting .clearCommunities => some (.clearCommunities map i)
  | _ => none

/-- The facts of a line, one for each value that it names. -/
def facts (hostname : String) (map : QualifiedName) (i : Nat) (line : ClauseLine) : List Fact :=
  match line.kind? with
  | none => []
  | some k => (line.values hostname).map fun value => ⟨k, [map, i, value]⟩

def extract (hostname : String) (map : QualifiedName) (i : Nat) : ClauseLine → Extraction
  | matching line => Device.matchLineOf hostname map i line
  | setting line => Device.setLineOf hostname map i line

variable (hostname : String) (map : QualifiedName) (i : Nat) {line : ClauseLine}

/-- The facts of a line are of its kind, and each is about one of its values. -/
theorem mem_facts_iff {f : Fact} :
    f ∈ line.facts hostname map i ↔
      ∃ k, line.kind? = some k ∧ ∃ value ∈ line.values hostname, f = ⟨k, [map, i, value]⟩ := by
  unfold facts
  cases line.kind? with
  | none => simp only [List.not_mem_nil, reduceCtorEq, false_and, exists_false]
  | some k => simp only [List.mem_map, Option.some.injEq, exists_eq_left', eq_comm]

/-- A line is warned about exactly when no fact can express it. -/
theorem warning?_eq_none_iff : line.warning? map i = none ↔ line.kind? ≠ none := by
  cases line with
  | matching line => cases line <;> simp [warning?, kind?]
  | setting line => cases line <;> simp [warning?, kind?]

/-- A line leaves its facts, or else its warning, and never fails. -/
theorem extract_eq (line : ClauseLine) : line.extract hostname map i =
    ⟨line.facts hostname map i, (line.warning? map i).toList, none⟩ := by
  cases line with
  | matching line =>
      cases line with
      | asPathAccessLists | neighbor => rfl
      | communityLists names | accessLists names | protocols names | routeFilters names
        | tags names =>
          simp only [extract, facts, kind?, values, List.map_map]
          rfl
  | setting line =>
      cases line with
      | asPathPrepend | clearCommunities | deleteCommunities | localPreference | metric
        | originType => rfl
      | addCommunities named | setCommunities named | nextHops named =>
          simp only [extract, facts, kind?, values, List.map_map]
          rfl

theorem failure_extract (line : ClauseLine) : (line.extract hostname map i).failure = none := by
  rw [extract_eq]

theorem facts_extract (line : ClauseLine) :
    (line.extract hostname map i).facts = line.facts hostname map i := by
  rw [extract_eq]

/-- Lines one after the other have the facts of each. -/
theorem facts_each (lines : List ClauseLine) :
    (Extraction.each lines (extract hostname map i)).facts =
      lines.flatMap (facts hostname map i) := by
  rw [Extraction.facts_each_of_none _ fun line _ => line.failure_extract hostname map i]
  simp only [facts_extract]

end ClauseLine

/-- A clause is its mark and its lines, one after the other. -/
theorem Device.clauseOf_eq (hostname : String) (map : QualifiedName) (i : Nat)
    (clause : PolicyClause) : clauseOf hostname map i clause =
      clauseActionOf map i clause.action
        ++ .each clause.lines (ClauseLine.extract hostname map i) := by
  unfold clauseOf PolicyClause.lines
  rw [Extraction.each_append, Extraction.each_map, Extraction.each_map, Extraction.append_assoc]
  rfl

end ConfigFacts
