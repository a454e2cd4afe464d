import ConfigFacts.Extraction.Basic

/-!
# Extractions one after the other

Extractions form a monoid under "one after the other, up to the first failure", with the empty
extraction as its unit. Going through a list is a homomorphism into it (`Extraction.each_append`),
and so is the extraction of facts alone (`Extraction.ofFacts_append`). The parts behind a failure
leave no trace (`Extraction.append_of_failure`).
-/

namespace ConfigFacts

namespace Extraction

@[simp] theorem failure_empty : empty.failure = none := rfl

@[simp] theorem failure_ofFacts (fs : List Fact) : (ofFacts fs).failure = none := rfl

@[simp] theorem failure_fact (k : FactKind) (fields : List Field) :
    (fact k fields).failure = none := rfl

@[simp] theorem failure_warn (w : Warning) : (warn w).failure = none := rfl

@[simp] theorem failure_fail (f : Failure) : (fail f).failure = some f := rfl

variable (a b c : Extraction)

/-- An extraction that found no failure is followed by the next one. -/
theorem append_of_none {a : Extraction} (sound : a.failure = none) :
    a ++ b = ⟨a.facts ++ b.facts, a.warnings ++ b.warnings, b.failure⟩ := by
  change a.andThen b = _
  simp only [andThen, sound]

/-- Nothing follows an extraction that failed. -/
theorem append_of_failure {a : Extraction} {f : Failure} (failed : a.failure = some f) :
    a ++ b = a := by
  change a.andThen b = _
  simp only [andThen, failed]

@[simp] theorem empty_append : empty ++ a = a :=
  append_of_none a rfl

@[simp] theorem append_empty : a ++ empty = a := by
  cases failed : a.failure with
  | none =>
      rw [append_of_none empty failed]
      simp only [empty, List.append_nil, ← failed]
  | some f => exact append_of_failure empty failed

/-- Two extractions one after the other fail with the first failure. -/
theorem failure_append : (a ++ b).failure = a.failure.or b.failure := by
  cases failed : a.failure with
  | none => rw [append_of_none b failed, Option.none_or]
  | some f => rw [append_of_failure b failed, failed, Option.some_or]

theorem append_assoc : a ++ b ++ c = a ++ (b ++ c) := by
  cases first : a.failure with
  | some f => rw [append_of_failure b first, append_of_failure c first, append_of_failure _ first]
  | none =>
      have both : (a ++ b).failure = b.failure := by rw [failure_append, first, Option.none_or]
      cases second : b.failure with
      | some f => rw [append_of_failure c (both.trans second), append_of_failure c second]
      | none =>
          rw [append_of_none c (both.trans second), append_of_none _ first, append_of_none _ first,
            append_of_none c second]
          simp only [List.append_assoc]

/-- If neither of two extractions fails, the facts are those of both. -/
theorem facts_append_of_none (sound : (a ++ b).failure = none) :
    (a ++ b).facts = a.facts ++ b.facts := by
  rw [failure_append, Option.or_eq_none_iff] at sound
  rw [append_of_none b sound.1]

variable {a b} in
/-- What the first of two extractions found stays, even if one of them fails. -/
theorem mem_facts_append_left {f : Fact} (member : f ∈ a.facts) : f ∈ (a ++ b).facts := by
  cases failed : a.failure with
  | none =>
      rw [append_of_none b failed]
      exact List.mem_append_left _ member
  | some failure => rwa [append_of_failure b failed]

variable {a b} in
/-- The facts of two extractions are facts of one of them. -/
theorem mem_or_mem_of_mem_facts_append {f : Fact} (member : f ∈ (a ++ b).facts) :
    f ∈ a.facts ∨ f ∈ b.facts := by
  cases failed : a.failure with
  | none =>
      rw [append_of_none b failed] at member
      exact List.mem_append.1 member
  | some failure =>
      rw [append_of_failure b failed] at member
      exact .inl member

variable {a b} in
/-- What holds of the facts of two extractions holds of all that they find one after the other. -/
theorem forall_mem_facts_append {p : Fact → Prop} (first : ∀ f ∈ a.facts, p f)
    (second : ∀ f ∈ b.facts, p f) : ∀ f ∈ (a ++ b).facts, p f := by
  intro f member
  rcases mem_or_mem_of_mem_facts_append member with before | behind
  · exact first f before
  · exact second f behind

/-- Facts behind each other are extracted one after the other. -/
theorem ofFacts_append (fs gs : List Fact) : ofFacts (fs ++ gs) = ofFacts fs ++ ofFacts gs := by
  rw [append_of_none (ofFacts gs) (a := ofFacts fs) rfl]
  rfl

section each

variable {α β : Type} (extract : α → Extraction)

@[simp] theorem each_nil : each [] extract = empty := rfl

@[simp] theorem each_cons (x : α) (xs : List α) :
    each (x :: xs) extract = extract x ++ each xs extract := rfl

theorem each_append (xs ys : List α) :
    each (xs ++ ys) extract = each xs extract ++ each ys extract := by
  induction xs with
  | nil => rw [List.nil_append, each_nil, empty_append]
  | cons x xs ih => rw [List.cons_append, each_cons, each_cons, ih, append_assoc]

theorem each_map (f : β → α) (xs : List β) :
    each (xs.map f) extract = each xs fun x => extract (f x) := by
  simp only [each, List.map_map]
  rfl

/-- Going through lists that come out of a list is going through the list of all their elements. -/
theorem each_flatMap (f : β → List α) (xs : List β) :
    each (xs.flatMap f) extract = each xs fun x => each (f x) extract := by
  induction xs with
  | nil => rfl
  | cons x xs ih => rw [List.flatMap_cons, each_append, each_cons, ih]

theorem ofFacts_flatMap (f : α → List Fact) (xs : List α) :
    ofFacts (xs.flatMap f) = each xs fun x => ofFacts (f x) := by
  induction xs with
  | nil => rfl
  | cons x xs ih => rw [List.flatMap_cons, ofFacts_append, each_cons, ih]

/-- A list fails with the failure of its first element that fails. -/
theorem failure_each (xs : List α) :
    (each xs extract).failure = xs.findSome? fun x => (extract x).failure := by
  induction xs with
  | nil => rfl
  | cons x xs ih =>
      rw [each_cons, failure_append, ih, List.findSome?_cons]
      cases (extract x).failure <;> rfl

/-- Extractions that do not fail do not fail one after the other. -/
theorem failure_each_eq_none {xs : List α} (sound : ∀ x ∈ xs, (extract x).failure = none) :
    (each xs extract).failure = none := by
  rw [failure_each, List.findSome?_eq_none_iff]
  exact sound

/-- If no element fails, the facts are those of all elements. -/
theorem facts_each_of_none {xs : List α} (sound : ∀ x ∈ xs, (extract x).failure = none) :
    (each xs extract).facts = xs.flatMap fun x => (extract x).facts := by
  induction xs with
  | nil => rfl
  | cons x xs ih =>
      have first := sound x List.mem_cons_self
      have rest := ih fun y member => sound y (List.mem_cons_of_mem x member)
      rw [each_cons, append_of_none _ first, List.flatMap_cons, ← rest]

/-- None of the extractions fails if they do not fail one after the other. -/
theorem failure_eq_none_of_each {xs : List α} (sound : (each xs extract).failure = none) :
    ∀ x ∈ xs, (extract x).failure = none := by
  rw [failure_each] at sound
  exact List.findSome?_eq_none_iff.1 sound

/-- A fact of extractions one after the other is a fact of one of them. -/
theorem exists_of_mem_facts_each {xs : List α} {f : Fact} (member : f ∈ (each xs extract).facts) :
    ∃ x ∈ xs, f ∈ (extract x).facts := by
  induction xs with
  | nil => cases member
  | cons x xs ih =>
      rcases mem_or_mem_of_mem_facts_append member with first | rest
      · exact ⟨x, List.mem_cons_self, first⟩
      · obtain ⟨y, listed, found⟩ := ih rest
        exact ⟨y, List.mem_cons_of_mem x listed, found⟩

variable {extract} in
/-- What holds of the facts of each extraction holds of all of them. -/
theorem forall_mem_facts_each {p : Fact → Prop} (element : ∀ x, ∀ f ∈ (extract x).facts, p f)
    (xs : List α) : ∀ f ∈ (each xs extract).facts, p f := by
  intro f member
  obtain ⟨x, _, found⟩ := exists_of_mem_facts_each extract member
  exact element x f found

end each

end Extraction

end ConfigFacts
