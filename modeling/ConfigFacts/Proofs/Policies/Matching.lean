import ConfigFacts.Proofs.Policies.Conditions

/-!
# What clauses match

A clause matches a route when all its match lines do, and a line does when one of the conditions
that it names holds. The facts keep the conditions of a clause but not its lines, so clauses with the
same facts may match different routes (`PolicyClause.matching_not_always_kept`). They read like a
flat clause, in which one line names all conditions of a kind. Every clause has the facts of a flat
one, matches no route that this one does not match, and matches all of them exactly when it is flat
itself (`PolicyClause.bins_tell_flat_clauses`).
-/

namespace ConfigFacts

/-- The kind of the facts of a match line, unless no fact can express it. -/
def MatchLine.kind? (line : MatchLine) : Option FactKind :=
  (ClauseLine.matching line).kind?

/-- A match line matches when one of the conditions that it names holds. -/
def MatchLine.Matches (holds : Condition → Prop) (line : MatchLine) : Prop :=
  ∃ c ∈ line.conditions, holds c

namespace PolicyClause

/-- A clause matches when all its match lines do. -/
def Matches (holds : Condition → Prop) (clause : PolicyClause) : Prop :=
  ∀ line ∈ clause.matchLines, line.Matches holds

/-- A clause whose match lines facts can express: none of them is on the AS path. -/
def IsExpressible (clause : PolicyClause) : Prop :=
  ∀ names, .asPathAccessLists names ∉ clause.matchLines

/-- A clause without structure inside of a kind: a match line other than on a neighbor names
something, and then all that the clause names of its kind. -/
def IsFlat (clause : PolicyClause) : Prop :=
  ∀ line ∈ clause.matchLines, (∃ address, line = .neighbor address) ∨
    line.conditions ≠ [] ∧
      ∀ c ∈ clause.conditions, c.kind? = line.kind? → c ∈ line.conditions

end PolicyClause

/-! ### Conditions of lines -/

namespace MatchLine

variable {line : MatchLine}

/-- The conditions of a line are of its kind. -/
theorem kind?_of_mem {c : Condition} (listed : c ∈ line.conditions) : c.kind? = line.kind? := by
  cases line with
  | neighbor =>
      obtain rfl := List.mem_singleton.1 listed
      rfl
  | asPathAccessLists | communityLists | accessLists | protocols | routeFilters | tags =>
      obtain ⟨_, _, rfl⟩ := List.mem_map.1 listed
      rfl

/-- A line that names a neighbor names nothing else. -/
theorem eq_neighbor_of_mem {address : Address} (listed : .neighbor address ∈ line.conditions) :
    line = .neighbor address := by
  cases line with
  | neighbor =>
      obtain rfl := Condition.neighbor.inj (List.mem_singleton.1 listed)
      rfl
  | asPathAccessLists | communityLists | accessLists | protocols | routeFilters | tags =>
      obtain ⟨_, _, other⟩ := List.mem_map.1 listed
      cases other

end MatchLine

namespace PolicyClause

variable {clause flat : PolicyClause}

/-- The conditions of a clause are those that its lines name. -/
theorem mem_conditions {c : Condition} :
    c ∈ clause.conditions ↔ ∃ line ∈ clause.matchLines, c ∈ line.conditions :=
  List.mem_flatMap

/-- A fact can express each condition of an expressible clause. -/
theorem IsExpressible.kind?_ne_none (expressible : clause.IsExpressible) {c : Condition}
    (listed : c ∈ clause.conditions) : c.kind? ≠ none := by
  obtain ⟨line, member, named⟩ := mem_conditions.1 listed
  rw [MatchLine.kind?_of_mem named]
  cases line with
  | asPathAccessLists names => exact absurd member (expressible names)
  | communityLists | accessLists | neighbor | protocols | routeFilters | tags => exact nofun

/-! ### Clauses with the conditions of a flat one -/

section same

variable (same : ∀ c, c ∈ clause.conditions ↔ c ∈ flat.conditions)

include same

/-- A flat clause matches whenever a clause with its conditions does. -/
theorem IsFlat.matches_of (flatness : flat.IsFlat) {holds : Condition → Prop}
    (holding : clause.Matches holds) : flat.Matches holds := by
  -- What a line of the flat clause names stands in a line of the other one, which matches.
  have satisfied {line : MatchLine} {c : Condition} (member : line ∈ flat.matchLines)
      (listed : c ∈ line.conditions) :
      ∃ origin ∈ clause.matchLines, c ∈ origin.conditions ∧ origin.Matches holds := by
    obtain ⟨origin, present, named⟩ :=
      mem_conditions.1 ((same c).2 (mem_conditions.2 ⟨line, member, listed⟩))
    exact ⟨origin, present, named, holding origin present⟩
  intro line member
  rcases flatness line member with ⟨address, rfl⟩ | ⟨nonempty, all⟩
  · obtain ⟨origin, _, named, holdingOrigin⟩ := satisfied member (List.mem_singleton_self _)
    rwa [MatchLine.eq_neighbor_of_mem named] at holdingOrigin
  · obtain ⟨c, listed⟩ := List.exists_mem_of_ne_nil _ nonempty
    obtain ⟨origin, present, named, d, alternative, valid⟩ := satisfied member listed
    have kinds : d.kind? = line.kind? := by
      rw [MatchLine.kind?_of_mem alternative, ← MatchLine.kind?_of_mem named,
        MatchLine.kind?_of_mem listed]
    have found := (same d).1 (mem_conditions.2 ⟨origin, present, alternative⟩)
    exact ⟨d, all d found kinds, valid⟩

/-- A clause that matches whenever a flat clause with its conditions does is flat. -/
theorem IsFlat.isFlat_of (flatness : flat.IsFlat)
    (follows : ∀ holds, flat.Matches holds → clause.Matches holds) : clause.IsFlat := by
  intro line member
  by_cases isNeighbor : ∃ address, line = .neighbor address
  · exact .inl isNeighbor
  right
  -- The line does not match when just its own conditions fail, so neither does the flat clause,
  -- which must have a line inside of this one.
  have unmatched : ¬ flat.Matches fun c => c ∉ line.conditions := by
    intro holding
    obtain ⟨c, listed, absent⟩ := follows _ holding line member
    exact absent listed
  obtain ⟨inner, present, inside⟩ :
      ∃ inner ∈ flat.matchLines, ∀ c ∈ inner.conditions, c ∈ line.conditions := by
    simpa only [Matches, MatchLine.Matches, Classical.not_forall, not_exists, not_and,
      Classical.not_not, exists_prop] using unmatched
  rcases flatness inner present with ⟨address, rfl⟩ | ⟨nonempty, all⟩
  · have named := inside (.neighbor address) (List.mem_singleton_self _)
    exact absurd ⟨address, MatchLine.eq_neighbor_of_mem named⟩ isNeighbor
  · obtain ⟨c, listed⟩ := List.exists_mem_of_ne_nil _ nonempty
    refine ⟨List.ne_nil_of_mem (inside c listed), fun d found kind => ?_⟩
    have kinds : d.kind? = inner.kind? := by
      rw [kind, ← MatchLine.kind?_of_mem (inside c listed), MatchLine.kind?_of_mem listed]
    exact inside d (all d ((same d).1 found) kinds)

end same

end PolicyClause

/-! ### The flat clause of a clause -/

namespace Condition

/-- The kinds of the facts of match lines. -/
def kinds : List FactKind :=
  [.clauseMatchCommunityList, .clauseMatchAccessList, .clauseMatchNeighbor, .clauseMatchProtocol,
    .clauseMatchRouteFilter, .clauseMatchTag]

/-- A match line with values of which one has to match, unless there are none. -/
def alternatives {α : Type} (line : List α → MatchLine) (values : List α) : List MatchLine :=
  if values = [] then [] else [line values]

/-- The match lines with the conditions of a kind: a line for each neighbor, and one line for all
values of another kind. -/
def linesOf (cs : List Condition) : FactKind → List MatchLine
  | .clauseMatchCommunityList => alternatives .communityLists <|
    cs.filterMap fun | communityList name => some name | _ => none
  | .clauseMatchAccessList => alternatives .accessLists <|
    cs.filterMap fun | accessList name => some name | _ => none
  | .clauseMatchNeighbor => List.map .neighbor <|
    cs.filterMap fun | neighbor address => some address | _ => none
  | .clauseMatchProtocol => alternatives .protocols <|
    cs.filterMap fun | protocol p => some p | _ => none
  | .clauseMatchRouteFilter => alternatives .routeFilters <|
    cs.filterMap fun | routeFilter name => some name | _ => none
  | .clauseMatchTag => alternatives .tags <|
    cs.filterMap fun | tag value => some value | _ => none
  | _ => []

end Condition

/-- The flat clause with the conditions of a clause. -/
def PolicyClause.flattened (clause : PolicyClause) : PolicyClause :=
  { clause with matchLines := Condition.kinds.flatMap (Condition.linesOf clause.conditions) }

namespace Condition

private theorem mem_kinds {c : Condition} {k : FactKind} (kind : c.kind? = some k) : k ∈ kinds := by
  cases c <;> cases kind <;> decide

section alternatives

variable {α : Type} {line : List α → MatchLine} {make : α → Condition}
variable {value? : Condition → Option α} {k : FactKind}

/-- The values of the conditions of a kind stand for these conditions. -/
theorem map_filterMap_value
    (own : ∀ c, (value? c).map make = if c.kind? = some k then some c else none)
    (cs : List Condition) :
    (cs.filterMap value?).map make = cs.filter fun c => c.kind? = some k := by
  rw [List.map_filterMap, ← List.filterMap_eq_filter]
  refine congrArg (fun keep => cs.filterMap keep) (funext fun c => (own c).trans ?_)
  simp only [Option.guard, decide_eq_true_eq]

variable (named : ∀ values, (line values).conditions = values.map make)

include named

private theorem conditions_alternatives (values : List α) :
    (alternatives line values).flatMap MatchLine.conditions = values.map make := by
  by_cases absent : values = []
  · rw [alternatives, if_pos absent, absent]
    rfl
  · rw [alternatives, if_neg absent, List.flatMap_singleton, named]

private theorem of_mem_alternatives {values : List α} {l : MatchLine}
    (member : l ∈ alternatives line values) :
    l.conditions ≠ [] ∧ l.conditions = values.map make := by
  by_cases absent : values = []
  · rw [alternatives, if_pos absent] at member
    cases member
  · rw [alternatives, if_neg absent] at member
    obtain rfl := List.mem_singleton.1 member
    rw [named, ne_eq, List.map_eq_nil_iff]
    exact ⟨absent, rfl⟩

end alternatives

/-- The lines of a kind name the conditions of this kind. -/
theorem conditions_linesOf {k : FactKind} (listed : k ∈ kinds) (cs : List Condition) :
    (linesOf cs k).flatMap MatchLine.conditions = cs.filter fun c => c.kind? = some k := by
  simp only [kinds, List.mem_cons, List.not_mem_nil, or_false] at listed
  rcases listed with rfl | rfl | rfl | rfl | rfl | rfl
  case inr.inr.inl =>
    rw [linesOf, List.flatMap_map]
    exact List.map_eq_flatMap.symm.trans
      (map_filterMap_value (fun c => by cases c <;> rfl) cs)
  all_goals
    exact (conditions_alternatives (fun _ => rfl) _).trans
      (map_filterMap_value (fun c => by cases c <;> rfl) cs)

/-- A line of a kind other than that of neighbors names all conditions of its kind. -/
theorem of_mem_linesOf {k : FactKind} (listed : k ∈ kinds) {cs : List Condition} {line : MatchLine}
    (member : line ∈ linesOf cs k) :
    (∃ address, line = .neighbor address) ∨
      line.conditions ≠ [] ∧ line.conditions = cs.filter fun c => c.kind? = some k := by
  simp only [kinds, List.mem_cons, List.not_mem_nil, or_false] at listed
  rcases listed with rfl | rfl | rfl | rfl | rfl | rfl
  case inr.inr.inl =>
    obtain ⟨address, _, rfl⟩ := List.mem_map.1 member
    exact .inl ⟨address, rfl⟩
  all_goals
    obtain ⟨nonempty, all⟩ := of_mem_alternatives (fun _ => rfl) member
    exact .inr ⟨nonempty, all.trans (map_filterMap_value (fun c => by cases c <;> rfl) cs)⟩

/-- Conditions sorted by kinds are the same within each kind. -/
theorem filter_flatMap_filter {ks : List FactKind} (distinct : ks.Nodup) {k : FactKind}
    (listed : k ∈ ks) (cs : List Condition) :
    (ks.flatMap fun own => cs.filter fun c => c.kind? = some own).filter
        (fun c => c.kind? = some k) =
      cs.filter fun c => c.kind? = some k := by
  have other {own : FactKind} (different : own ≠ k) :
      (cs.filter fun c => c.kind? = some own).filter (fun c => c.kind? = some k) = [] := by
    refine List.filter_eq_nil_iff.2 fun c member kind => different ?_
    have first := of_decide_eq_true (List.mem_filter.1 member).2
    exact Option.some.inj (first.symm.trans (of_decide_eq_true kind))
  obtain ⟨before, behind, rfl⟩ := List.append_of_mem listed
  have apart := List.nodup_append.1 distinct
  have absentBehind := (List.nodup_cons.1 apart.2.1).1
  have absentBefore : k ∉ before := fun present =>
    apart.2.2 k present k List.mem_cons_self rfl
  rw [List.flatMap_append, List.flatMap_cons, List.filter_append, List.filter_append,
    List.filter_flatMap, List.filter_flatMap, List.filter_filter]
  rw [List.flatMap_eq_nil_iff.2 fun own present => other fun same => absentBefore (same ▸ present),
    List.flatMap_eq_nil_iff.2 fun own present => other fun same => absentBehind (same ▸ present)]
  simp only [Bool.and_self, List.nil_append, List.append_nil]

end Condition

namespace PolicyClause

variable (clause : PolicyClause)

private theorem conditions_flattened : clause.flattened.conditions =
    Condition.kinds.flatMap fun k => clause.conditions.filter fun c => c.kind? = some k := by
  rw [conditions, flattened, List.flatMap_assoc]
  exact congrArg List.flatten (List.map_congr_left fun k listed =>
    Condition.conditions_linesOf listed clause.conditions)

private theorem filter_conditions_flattened (k : FactKind) :
    (clause.flattened.conditions.filter fun c => c.kind? = some k) =
      clause.conditions.filter fun c => c.kind? = some k := by
  rw [conditions_flattened]
  by_cases listed : k ∈ Condition.kinds
  · exact Condition.filter_flatMap_filter (by decide) listed clause.conditions
  · have none (cs : List Condition) : (cs.filter fun c => c.kind? = some k) = [] :=
      List.filter_eq_nil_iff.2 fun c _ own => listed (Condition.mem_kinds (of_decide_eq_true own))
    rw [none, none]

/-- A clause has the bins of its flat clause. -/
theorem matchBins_flattened (hostname : String) (map : QualifiedName) (i : Nat) :
    clause.flattened.matchBins hostname map i = clause.matchBins hostname map i := by
  apply Bins.eq_of_get
  intro k
  rw [matchBins_eq, matchBins_eq, matchFacts_eq, matchFacts_eq, Bins.get_ofFacts, Bins.get_ofFacts,
    ← String.toList_inj, Condition.toList_text, Condition.toList_text, filter_conditions_flattened]

/-- A clause has the facts of its flat clause. -/
theorem sameFacts_flattened (hostname : String) (map : QualifiedName) (i : Nat) :
    clause.flattened.SameFacts hostname map i clause := by
  refine sameFacts_of_mem_conditions_iff fun c supported => ?_
  obtain ⟨k, kind⟩ := Option.ne_none_iff_exists'.1 supported
  have ofKind := congrArg (c ∈ ·) (filter_conditions_flattened clause k)
  simpa only [List.mem_filter, kind, decide_true, and_true, eq_iff_iff] using ofKind

/-- The flat clause of a clause is flat. -/
theorem isFlat_flattened : clause.flattened.IsFlat := by
  intro line member
  obtain ⟨k, listed, own⟩ := List.mem_flatMap.1 member
  refine (Condition.of_mem_linesOf listed own).imp_right fun ⟨nonempty, all⟩ => ⟨nonempty, ?_⟩
  intro c found kind
  obtain ⟨first, named⟩ := List.exists_mem_of_ne_nil _ nonempty
  have ofKind : line.kind? = some k := by
    rw [all] at named
    rw [← MatchLine.kind?_of_mem (all ▸ named), of_decide_eq_true (List.mem_filter.1 named).2]
  rw [all, ← filter_conditions_flattened]
  exact List.mem_filter.2 ⟨found, decide_eq_true (kind.trans ofKind)⟩

/-- No line of a flat clause made from conditions is on the AS path. -/
theorem isExpressible_flattened : clause.flattened.IsExpressible := by
  intro names member
  obtain ⟨k, listed, own⟩ := List.mem_flatMap.1 member
  obtain ⟨_, other⟩ | ⟨nonempty, all⟩ := Condition.of_mem_linesOf listed own
  · cases other
  · obtain ⟨c, named⟩ := List.exists_mem_of_ne_nil _ nonempty
    have noKind : c.kind? = none := MatchLine.kind?_of_mem named
    rw [all] at named
    rw [of_decide_eq_true (List.mem_filter.1 named).2] at noKind
    cases noKind

/-! ### What the facts tell -/

/-- A clause that asks for two community lists at once. -/
def askingBoth : PolicyClause :=
  ⟨.permit, [.communityLists ["a"], .communityLists ["b"]], []⟩

/-- A clause that asks for one of two community lists. -/
def askingEither : PolicyClause :=
  ⟨.permit, [.communityLists ["a", "b"]], []⟩

variable {clause} in
/-- **The facts tell what flat clauses match, and no others.** There is a flat clause with the facts
of any clause, also in the bins. The flat clauses with these facts match whenever the clause does,
and they match exactly when it does if and only if it is flat itself. The facts are those that the
bins tell, unless a name has a line feed in it. -/
theorem bins_tell_flat_clauses (hostname : String) (map : QualifiedName) (i : Nat)
    (expressible : clause.IsExpressible) :
    (∃ flat : PolicyClause, flat.IsExpressible ∧ flat.IsFlat ∧
        flat.SameFacts hostname map i clause ∧
        flat.matchBins hostname map i = clause.matchBins hostname map i) ∧
      (∀ flat : PolicyClause, flat.IsExpressible → flat.IsFlat →
        flat.SameFacts hostname map i clause →
          (∀ holds, clause.Matches holds → flat.Matches holds) ∧
          (clause.IsFlat ↔ ∀ holds, clause.Matches holds ↔ flat.Matches holds)) ∧
      ∀ other : PolicyClause, other.NamesNoFeed → clause.NamesNoFeed →
        other.matchBins hostname map i = clause.matchBins hostname map i →
          other.SameFacts hostname map i clause := by
  refine ⟨⟨clause.flattened, clause.isExpressible_flattened, clause.isFlat_flattened,
    clause.sameFacts_flattened hostname map i, clause.matchBins_flattened hostname map i⟩, ?_,
    fun other => sameFacts_of_matchBins⟩
  intro flat expressibleFlat flatness sameFacts
  have same (c : Condition) : c ∈ clause.conditions ↔ c ∈ flat.conditions := by
    by_cases supported : c.kind? = none
    · exact iff_of_false (fun listed => expressible.kind?_ne_none listed supported)
        fun listed => expressibleFlat.kind?_ne_none listed supported
    · exact (sameFacts.mem_conditions_iff supported).symm
  have looser (holds : Condition → Prop) (holding : clause.Matches holds) : flat.Matches holds :=
    flatness.matches_of same holding
  refine ⟨looser, fun ownFlatness holds => ⟨looser holds, ?_⟩, fun alike => ?_⟩
  · exact ownFlatness.matches_of fun c => (same c).symm
  · exact flatness.isFlat_of same fun holds => (alike holds).2

/-- Asking for two lists is stricter than the flat clause with the same facts. -/
theorem bins_tell_flat_clauses_askingEither :
    (∀ holds, askingBoth.Matches holds → askingEither.Matches holds) ∧ ¬ askingBoth.IsFlat := by
  have expressibleBoth : askingBoth.IsExpressible := by simp [IsExpressible, askingBoth]
  have expressibleEither : askingEither.IsExpressible := by simp [IsExpressible, askingEither]
  have flat : askingEither.IsFlat := by
    simp [IsFlat, askingEither, conditions, MatchLine.conditions]
  obtain ⟨_, told, fromBins⟩ := bins_tell_flat_clauses "r0" ⟨"r0", "PM"⟩ 0 expressibleBoth
  have sameFacts := fromBins askingEither (by decide) (by decide) rfl
  obtain ⟨looser, alike⟩ := told askingEither expressibleEither flat sameFacts
  refine ⟨looser, fun flatBoth => ?_⟩
  have matching := (alike.1 flatBoth fun c => c = .communityList "a").2 (by
    simp [Matches, MatchLine.Matches, askingEither, MatchLine.conditions])
  simp [Matches, MatchLine.Matches, askingBoth, MatchLine.conditions] at matching

/-- Two community lists asked for at once leave the bins of a choice between them. -/
theorem matching_not_always_kept :
    ¬ ∀ (hostname : String) (map : QualifiedName) (i : Nat) (clause other : PolicyClause),
      (∀ names, .asPathAccessLists names ∉ clause.matchLines) →
      (∀ names, .asPathAccessLists names ∉ other.matchLines) →
      clause.matchBins hostname map i = other.matchBins hostname map i →
        ∀ holds, clause.Matches holds ↔ other.Matches holds := by
  intro kept
  have alike := kept "r0" ⟨"r0", "PM"⟩ 0 askingBoth askingEither (by simp [askingBoth])
    (by simp [askingEither]) rfl fun c => c = .communityList "a"
  simp [Matches, MatchLine.Matches, askingBoth, askingEither, MatchLine.conditions] at alike

end PolicyClause

end ConfigFacts
