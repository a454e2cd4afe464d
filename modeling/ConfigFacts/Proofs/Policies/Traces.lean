import ConfigFacts.Proofs.Network.Facts
import ConfigFacts.Proofs.Warnings

/-!
# Traces of clauses

A line of a clause that no fact can express is warned about, and a line that names values has a fact
for each of them. What leaves no trace is a line that names nothing, such as one that replaces all
communities by none, unless another line of the clause leaves one for it
(`Device.clause_lines_leave_traces`).
-/

namespace ConfigFacts

/-- The clause that a warning names. -/
def Warning.clause? : Warning → Option (QualifiedName × Nat)
  | .asPathMatch map i | .asPathPrepend map i | .clearCommunities map i => some (map, i)
  | .accessListLine _ _ | .throughLine _ _ => none

/-- A line of a clause leaves a trace: a fact of its kind or a warning, with the name of the policy
map and the position of the clause. -/
def Device.Traces (d : Device) (known : CommunitySet) (name : String) (i : Nat)
    (line : ClauseLine) : Prop :=
  (∃ f ∈ (d.extract known).facts, line.kind? = some f.kind ∧
      [.name (qualify d.hostname name), .number i] <+: f.fields) ∨
    ∃ w ∈ (d.extract known).warnings, w.clause? = some (qualify d.hostname name, i)

namespace ClauseLine

variable {line : ClauseLine} {map : QualifiedName} {i : Nat}

private theorem family?_of_kind? {k : FactKind} (kind : line.kind? = some k) :
    k.family? = some .policyMaps := by
  cases line with
  | matching line => cases line <;> cases kind <;> rfl
  | setting line => cases line <;> cases kind <;> rfl

/-- The mark of a clause is no fact of a line. -/
theorem ne_mark_of_kind? {k : FactKind} (kind : line.kind? = some k) :
    k ≠ .clausePermit ∧ k ≠ .clauseDeny := by
  cases line with
  | matching line => cases line <;> cases kind <;> exact ⟨nofun, nofun⟩
  | setting line => cases line <;> cases kind <;> exact ⟨nofun, nofun⟩

private theorem clause?_of_warning? {w : Warning} (warned : line.warning? map i = some w) :
    w.clause? = some (map, i) := by
  cases line with
  | matching line =>
      cases line <;> cases warned
      rfl
  | setting line => cases line <;> cases warned <;> rfl

end ClauseLine

namespace Device

variable {d : Device} {known : CommunitySet} {name : String} {i : Nat} {clause : PolicyClause}
variable {line : ClauseLine}

/-- A fact of the kind of a line with the key of a clause is one of a line of the clause. -/
theorem exists_line_of_fact (held : d.Holds (.policyClause name i clause)) {f : Fact}
    (member : f ∈ (d.extract known).facts) (kind : line.kind? = some f.kind)
    (key : [.name (qualify d.hostname name), .number i] <+: f.fields) :
    ∃ other ∈ clause.lines, other.kind? = line.kind? ∧ other.values d.hostname ≠ [] := by
  have found : f ∈ (clauseOf d.hostname (qualify d.hostname name) i clause).facts :=
    mem_extract_of_key held nofun member (ClauseLine.family?_of_kind? kind) key
  rw [clauseOf_eq] at found
  rcases Extraction.mem_or_mem_of_mem_facts_append found with mark | lines
  · obtain ⟨notPermit, notDeny⟩ := ClauseLine.ne_mark_of_kind? kind
    cases action : clause.action with
    | permit =>
        rw [action] at mark
        exact absurd (congrArg Fact.kind (List.mem_singleton.1 mark)) notPermit
    | deny =>
        rw [action] at mark
        exact absurd (congrArg Fact.kind (List.mem_singleton.1 mark)) notDeny
    | unrecognized =>
        rw [action] at mark
        cases mark
  · rw [ClauseLine.facts_each] at lines
    obtain ⟨other, listed, own⟩ := List.mem_flatMap.1 lines
    obtain ⟨k, otherKind, value, named, rfl⟩ := (ClauseLine.mem_facts_iff _ _ _).1 own
    exact ⟨other, listed, otherKind.trans kind.symm, List.ne_nil_of_mem named⟩

/-- The values that a line names have their facts. -/
theorem fact_mem_of_line (sound : (d.extract known).failure = none)
    (held : d.Holds (.policyClause name i clause)) (listed : line ∈ clause.lines) {k : FactKind}
    (kind : line.kind? = some k) {value : Field} (named : value ∈ line.values d.hostname) :
    ⟨k, [qualify d.hostname name, i, value]⟩ ∈ (d.extract known).facts := by
  apply mem_facts_of_holds sound held
  have passed := (Construct.failure_extract d known _).trans
    (List.findSome?_eq_none_iff.1 ((d.failure_extract known).symm.trans sound) _
      (d.mem_constructs_iff.2 held))
  change _ ∈ (clauseOf d.hostname (qualify d.hostname name) i clause).facts
  change (clauseOf d.hostname (qualify d.hostname name) i clause).failure = none at passed
  rw [clauseOf_eq] at passed ⊢
  rw [Extraction.facts_append_of_none _ _ passed, ClauseLine.facts_each]
  exact List.mem_append_right _ (List.mem_flatMap.2 ⟨line, listed,
    (ClauseLine.mem_facts_iff _ _ _).2 ⟨k, kind, value, named, rfl⟩⟩)

/-- Only the warnings about policy maps name clauses. -/
theorem eq_policyMaps_of_clause? {family : Family} {w : Warning} (deserved : w ∈ family.warnings d)
    {key : QualifiedName × Nat} (names : w.clause? = some key) : family = .policyMaps := by
  cases family with
  | policyMaps => rfl
  | accessLists =>
      obtain ⟨_, _, ofList⟩ := List.mem_flatMap.1 deserved
      obtain ⟨_, _, warned⟩ := List.mem_filterMap.1 ofList
      obtain rfl := Option.some.inj (Option.ite_none_left_eq_some.1 warned).2
      cases names
  | routeFilters =>
      obtain ⟨_, _, ofFilter⟩ := List.mem_flatMap.1 deserved
      obtain ⟨⟨line, _⟩, _, warned⟩ := List.mem_filterMap.1 ofFilter
      cases line with
      | lengthRange => cases warned
      | through =>
          obtain rfl := Option.some.inj warned
          cases names
  | _ => cases deserved

/-- The warnings about the lines of a clause are those that name the clause. -/
theorem mem_warnings_iff (held : d.Holds (.policyClause name i clause)) {w : Warning}
    (names : w.clause? = some (qualify d.hostname name, i)) :
    w ∈ d.warnings ↔
      ∃ line ∈ clause.lines, line.warning? (qualify d.hostname name) i = some w := by
  cases held with
  | policyClause stored present =>
      constructor
      · intro member
        obtain ⟨family, _, deserved⟩ := List.mem_flatMap.1 member
        obtain rfl := eq_policyMaps_of_clause? deserved names
        obtain ⟨⟨name', map⟩, entry, ofMap⟩ := List.mem_flatMap.1 deserved
        obtain ⟨⟨clause', i'⟩, numbered, ofClause⟩ := List.mem_flatMap.1 ofMap
        obtain ⟨line, listed, warned⟩ := List.mem_filterMap.1 ofClause
        -- The warning names its own clause, so that is the clause held.
        have key := (ClauseLine.clause?_of_warning? warned).symm.trans names
        simp only [qualify, Option.some.injEq, Prod.mk.injEq, QualifiedName.mk.injEq,
          true_and] at key
        obtain ⟨rfl, rfl⟩ := key
        obtain rfl := Option.some.inj
          (((d.policyMaps.mem_entries_iff _ _).1 entry).symm.trans stored)
        obtain rfl := Option.some.inj
          ((List.mk_mem_zipIdx_iff_getElem?.1 numbered).symm.trans present)
        exact ⟨line, listed, warned⟩
      · rintro ⟨line, listed, warned⟩
        refine List.mem_flatMap.2 ⟨.policyMaps, by decide, ?_⟩
        refine List.mem_flatMap.2 ⟨(name, _), (d.policyMaps.mem_entries_iff _ _).2 stored, ?_⟩
        exact List.mem_flatMap.2 ⟨(clause, i), List.mk_mem_zipIdx_iff_getElem?.2 present,
          List.mem_filterMap.2 ⟨line, listed, warned⟩⟩

/-- A line that no fact can express has its warning. -/
theorem warning_mem_of_line (sound : (d.extract known).failure = none)
    (held : d.Holds (.policyClause name i clause)) (listed : line ∈ clause.lines)
    (unsupported : line.kind? = none) :
    ∃ w ∈ (d.extract known).warnings, line.warning? (qualify d.hostname name) i = some w := by
  have some : line.warning? (qualify d.hostname name) i ≠ none := fun none =>
    (ClauseLine.warning?_eq_none_iff _ _).1 none unsupported
  obtain ⟨w, own⟩ := Option.ne_none_iff_exists'.1 some
  rw [(d.warns known).complete sound]
  exact ⟨w, (mem_warnings_iff held (ClauseLine.clause?_of_warning? own)).2 ⟨line, listed, own⟩, own⟩

/-- A clause that sets the metric and replaces all communities by none. -/
def replacingClause : PolicyClause :=
  ⟨.permit, [], [.metric 5, .setCommunities []]⟩

/-- A device with one policy map of this clause. -/
def replacing : Device :=
  { named "r0" "cisco" with policyMaps := .ofList [("PM", ⟨[replacingClause]⟩)] }

private theorem replacing_holds : replacing.Holds (.policyClause "PM" 0 replacingClause) :=
  .policyClause rfl rfl

/-- **Only what names nothing is dropped silently.** In a device that does not fail, every line of a
clause has a fact for each value that it names, or else a warning if no fact can express it. So a
line leaves a trace exactly when a line of its kind names a value or the clause is warned about. -/
theorem clause_lines_leave_traces (sound : (d.extract known).failure = none)
    (held : d.Holds (.policyClause name i clause)) (listed : line ∈ clause.lines) :
    d.writeAlone known =
        (.ok (.ofFacts (d.extract known).facts), (d.extract known).warnings) ∧
      (∀ k, line.kind? = some k → ∀ value ∈ line.values d.hostname,
        ⟨k, [qualify d.hostname name, i, value]⟩ ∈ (d.extract known).facts) ∧
      (line.kind? = none → ∃ w ∈ (d.extract known).warnings,
        line.warning? (qualify d.hostname name) i = some w) ∧
      (d.Traces known name i line ↔
        (∃ other ∈ clause.lines, other.kind? = none) ∨
          ∃ other ∈ clause.lines, other.kind? = line.kind? ∧ other.values d.hostname ≠ []) := by
  refine ⟨writeAlone_eq_of_none sound,
    fun k kind value named => fact_mem_of_line sound held listed kind named,
    warning_mem_of_line sound held listed, ?_, ?_⟩
  · rintro (⟨f, member, kind, key⟩ | ⟨w, member, names⟩)
    · exact .inr (exists_line_of_fact held member kind key)
    · rw [(d.warns known).complete sound] at member
      obtain ⟨other, present, own⟩ := (mem_warnings_iff held names).1 member
      refine .inl ⟨other, present, ?_⟩
      by_contra supported
      rw [(ClauseLine.warning?_eq_none_iff _ _).2 supported] at own
      cases own
  · have traceOfWarning {other : ClauseLine} (present : other ∈ clause.lines)
        (unsupported : other.kind? = none) : d.Traces known name i line := by
      obtain ⟨w, member, own⟩ := warning_mem_of_line sound held present unsupported
      exact .inr ⟨w, member, ClauseLine.clause?_of_warning? own⟩
    rintro (⟨other, present, unsupported⟩ | ⟨other, present, same, nonempty⟩)
    · exact traceOfWarning present unsupported
    · cases kind : line.kind? with
      | none => exact traceOfWarning present (same.trans kind)
      | some k =>
          obtain ⟨value, named⟩ := List.exists_mem_of_ne_nil _ nonempty
          have member := fact_mem_of_line sound held present (same.trans kind) named
          exact .inl ⟨_, member, kind, ⟨_, rfl⟩⟩

/-- A line that sets a metric leaves a trace, and one that sets no communities does not. -/
theorem clause_lines_leave_traces_of_replacing :
    (replacing.extract .empty).failure = none ∧
      ⟨.clauseSetMetric, [qualify "r0" "PM", .number 0, .number 5]⟩ ∈
        (replacing.extract .empty).facts ∧
      ¬ replacing.Traces .empty "PM" 0 (.setting (.setCommunities [])) := by
  have sound : (replacing.extract .empty).failure = none := by decide +kernel
  have setsMetric : .setting (.metric 5) ∈ replacingClause.lines := by decide
  have setsNone : .setting (.setCommunities []) ∈ replacingClause.lines := by decide
  obtain ⟨_, metric, _⟩ := clause_lines_leave_traces sound replacing_holds setsMetric
  obtain ⟨_, _, _, communities⟩ := clause_lines_leave_traces sound replacing_holds setsNone
  refine ⟨sound, metric .clauseSetMetric rfl _ (List.mem_singleton_self _), ?_⟩
  rw [communities]
  decide

/-- A line that replaces all communities by none is dropped silently. -/
theorem lines_not_always_traced :
    ¬ ∀ (d : Device) (known : CommunitySet), (d.extract known).failure = none →
      ∀ (name : String) (i : Nat) (clause : PolicyClause), d.Holds (.policyClause name i clause) →
        ∀ line ∈ clause.lines, d.Traces known name i line := by
  intro traced
  have traces := traced replacing .empty (by decide +kernel) "PM" 0 replacingClause replacing_holds
    (.setting (.setCommunities [])) (by decide)
  rcases traces with ⟨f, member, kind, key⟩ | ⟨w, member, _⟩
  · obtain ⟨other, listed, same, nonempty⟩ := exists_line_of_fact replacing_holds member kind key
    revert other
    decide
  · have silent : (replacing.extract .empty).warnings = [] := by decide +kernel
    rw [silent] at member
    cases member

end Device

end ConfigFacts
