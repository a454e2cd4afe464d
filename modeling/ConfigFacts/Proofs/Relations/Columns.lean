import ConfigFacts.Proofs.Fault.LeftBehind

/-!
# Columns of relations

A column lists what stands at one position in the facts of some kinds. Columns are read part by
part: the column of lists one after the other is the columns of the lists one after the other, and
facts of other kinds do not show. So when a device does not fail, the column of kinds that belong to
one family is the column of this family (`Device.column_extract`).

A fact of such a kind is always one of its family (`Device.mem_family_facts`), and a device that does
not fail has the facts of all families (`Device.mem_facts_of_family`).
-/

namespace ConfigFacts

namespace Fact

/-- What stands at a position in each of the facts of some kinds. -/
def column (kinds : List FactKind) (i : Nat) (fs : List Fact) : List (Option Field) :=
  (fs.filter fun f => f.kind ∈ kinds).map fun f => f.fields[i]?

variable {kinds : List FactKind} {i : Nat} {α : Type} {xs : List α}

/-- A column has what the facts of its kinds have in its place. -/
theorem mem_column_iff {fs : List Fact} {x : Option Field} :
    x ∈ column kinds i fs ↔ ∃ f ∈ fs, f.kind ∈ kinds ∧ f.fields[i]? = x := by
  simp only [column, List.mem_map, List.mem_filter, decide_eq_true_eq, and_assoc]

/-- The column of facts behind each other is that of the first ones and that of the others. -/
theorem column_append (fs gs : List Fact) :
    column kinds i (fs ++ gs) = column kinds i fs ++ column kinds i gs := by
  rw [column, List.filter_append, List.map_append]
  rfl

/-- The column of facts put together from parts joins the columns of the parts. -/
theorem column_flatMap (facts : α → List Fact) (xs : List α) :
    column kinds i (xs.flatMap facts) = xs.flatMap fun x => column kinds i (facts x) := by
  rw [column, List.filter_flatMap, List.map_flatMap]
  rfl

/-- Facts of other kinds do not show in a column. -/
theorem column_eq_nil {fs : List Fact} (others : Within (fun k => k ∉ kinds) fs) :
    column kinds i fs = [] := by
  refine List.map_eq_nil_iff.2 (List.filter_eq_nil_iff.2 fun f member shown => ?_)
  exact of_decide_eq_true (others f member) (of_decide_eq_true shown)

/-- The column of facts that each show a value has these values. -/
theorem column_map {fact : α → Fact} {value : α → Option Field}
    (shows : Within (fun k => k ∈ kinds) (xs.map fact))
    (field : ∀ x, (fact x).fields[i]? = value x) :
    column kinds i (xs.map fact) = xs.map value := by
  have shown : (xs.map fact).filter (fun f => f.kind ∈ kinds) = xs.map fact :=
    List.filter_eq_self.2 shows
  rw [column, shown, List.map_map]
  exact List.map_congr_left fun x _ => field x

/-- The column of extractions one after the other of which none fails. -/
theorem column_each {extract : α → Extraction} {values : α → List (Option Field)}
    (sound : (Extraction.each xs extract).failure = none)
    (element : ∀ x ∈ xs, (extract x).failure = none →
      column kinds i (extract x).facts = values x) :
    column kinds i (Extraction.each xs extract).facts = xs.flatMap values := by
  induction xs with
  | nil => rfl
  | cons x xs ih =>
      rw [Extraction.each_cons] at sound
      have both := sound
      rw [Extraction.failure_append, Option.or_eq_none_iff] at both
      have rest := ih both.2 fun y member => element y (List.mem_cons_of_mem x member)
      rw [Extraction.each_cons, Extraction.facts_append_of_none _ _ sound, column_append,
        element x List.mem_cons_self both.1, rest, List.flatMap_cons]

/-- The column of numbered extractions joins the columns of the elements. -/
theorem column_eachIndexed {extract : Nat → α → Extraction} {values : α → List (Option Field)}
    (sound : (Extraction.eachIndexed xs extract).failure = none)
    (element : ∀ j x, (extract j x).failure = none →
      column kinds i (extract j x).facts = values x) :
    column kinds i (Extraction.eachIndexed xs extract).facts = xs.flatMap values := by
  have numbered : column kinds i (Extraction.eachIndexed xs extract).facts =
      xs.zipIdx.flatMap fun p => values p.1 :=
    column_each sound fun p _ passed => element p.2 p.1 passed
  rw [numbered, ← List.flatMap_map Prod.fst values, List.zipIdx_map_fst]

end Fact

/-- A fact of a kind that belongs to one family comes from this family. -/
theorem Device.mem_family_facts {d : Device} {known : CommunitySet} (family : Family) {f : Fact}
    (member : f ∈ (d.extract known).facts) (own : f.kind.family? = some family) :
    f ∈ (family.extract d known).facts := by
  obtain ⟨other, _, found⟩ := Extraction.exists_of_mem_facts_each _ member
  have allowed := other.within d known f found
  by_cases same : other = family
  · exact same ▸ found
  · rw [Family.mayWrite_of_ne own same] at allowed
    cases allowed

/-- A device that does not fail has all facts of its families. -/
theorem Device.mem_facts_of_family {d : Device} {known : CommunitySet}
    (sound : (d.extract known).failure = none) (family : Family) {f : Fact}
    (found : f ∈ (family.extract d known).facts) : f ∈ (d.extract known).facts := by
  rw [Device.facts_eq_flatMap sound]
  exact List.mem_flatMap.2 ⟨family, family.mem_all, found⟩

/-- A family has no facts of the kinds that it may not write. -/
theorem Family.filter_facts_eq_nil (family : Family) {d : Device} {known : CommunitySet}
    {p : Fact → Bool} (forbidden : ∀ f, p f = true → family.mayWrite f.kind = false) :
    (family.extract d known).facts.filter p = [] := by
  refine List.filter_eq_nil_iff.2 fun f member shown => ?_
  have allowed := family.within d known f member
  rw [forbidden f shown] at allowed
  cases allowed

/-- The facts with a property that only facts of one family have are those of the family. -/
theorem Device.filter_extract {d : Device} {known : CommunitySet}
    (sound : (d.extract known).failure = none) {family : Family} {p : Fact → Bool}
    (own : ∀ f, p f = true → f.kind.family? = some family) :
    (d.extract known).facts.filter p = (family.extract d known).facts.filter p := by
  have silent (other : Family) (different : other ≠ family) :
      (other.extract d known).facts.filter p = [] :=
    other.filter_facts_eq_nil fun f shown => Family.mayWrite_of_ne (own f shown) different
  have before : (family.earlier.flatMap fun other => (other.extract d known).facts.filter p) = [] :=
    List.flatMap_eq_nil_iff.2 fun other earlier =>
      silent other fun same => family.not_mem_earlier (same ▸ earlier)
  have behind : (family.later.flatMap fun other => (other.extract d known).facts.filter p) = [] :=
    List.flatMap_eq_nil_iff.2 fun other later =>
      silent other fun same => family.not_mem_later (same ▸ later)
  rw [facts_eq_flatMap sound, List.filter_flatMap, family.all_eq, List.flatMap_append,
    List.flatMap_cons, before, behind, List.nil_append, List.append_nil]

/-- The facts of a kind that belongs to one family are those of the family. -/
theorem Device.filter_kind_extract {d : Device} {known : CommunitySet}
    (sound : (d.extract known).failure = none) {family : Family} {k : FactKind}
    (own : k.family? = some family) :
    ((d.extract known).facts.filter fun f => f.kind = k) =
      (family.extract d known).facts.filter fun f => f.kind = k :=
  filter_extract sound fun _ shown => of_decide_eq_true shown ▸ own

/-- The column of kinds that belong to one family is that of the family. -/
theorem Device.column_extract {d : Device} {known : CommunitySet}
    (sound : (d.extract known).failure = none) {family : Family} {kinds : List FactKind}
    (own : ∀ k ∈ kinds, k.family? = some family) (i : Nat) :
    Fact.column kinds i (d.extract known).facts =
      Fact.column kinds i (family.extract d known).facts :=
  congrArg (List.map fun f : Fact => f.fields[i]?)
    (filter_extract sound fun f shown => own f.kind (of_decide_eq_true shown))

end ConfigFacts
