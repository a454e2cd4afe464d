import ConfigFacts.Ledger
import ConfigFacts.Proofs.Bins
import ConfigFacts.Proofs.Extraction

/-!
# What programs write

`Writing.Writes w e` says that the program `w` does to every ledger what the extraction `e` says: it
puts the facts of `e` behind those in the bins, the warnings of `e` behind those in the ledger, and
ends with the failure of `e`. Every way to build a program preserves this: one program after the
other writes one extraction after the other (`Writes.andThen`), and a loop writes the extractions of
its elements (`Writes.each`).
-/

namespace ConfigFacts

/-- How a program ends that finds what an extraction says. -/
def Extraction.outcome (e : Extraction) : Except Failure Unit :=
  match e.failure with
  | none => .ok ()
  | some failure => .error failure

theorem Extraction.outcome_of_none {e : Extraction} (sound : e.failure = none) :
    e.outcome = .ok () := by
  rw [outcome, sound]

theorem Extraction.outcome_of_some {e : Extraction} {failure : Failure}
    (failed : e.failure = some failure) : e.outcome = .error failure := by
  rw [outcome, failed]

theorem Extraction.failure_eq_none_of_outcome {e : Extraction} (succeeded : e.outcome = .ok ()) :
    e.failure = none := by
  cases failed : e.failure with
  | none => rfl
  | some failure =>
      rw [outcome_of_some failed] at succeeded
      cases succeeded

/-- A ledger in which an extraction is written down. -/
def Ledger.add (l : Ledger) (e : Extraction) : Ledger :=
  ⟨l.bins.pushAll e.facts, l.warnings ++ e.warnings⟩

private theorem Ledger.add_empty (l : Ledger) : l.add .empty = l := by
  simp only [Ledger.add, Extraction.empty, Bins.pushAll, List.foldl_nil, List.append_nil]

namespace Writing

variable {α : Type}

@[simp] theorem perform_pure (a : α) (l : Ledger) : (pure a : Writing α).perform l = (.ok a, l) :=
  rfl

/-- A program goes on with the next one unless it fails. -/
theorem perform_bind {β : Type} (w : Writing α) (next : α → Writing β) (l : Ledger) :
    (w >>= next).perform l =
      match w.perform l with
      | (.ok a, l) => (next a).perform l
      | (.error failure, l) => (.error failure, l) := by
  have step : (w >>= next).perform l = ExceptT.bindCont next (w.perform l).1 (w.perform l).2 := rfl
  rw [step]
  rcases w.perform l with ⟨failure | a, after⟩
  · rfl
  · rfl

@[simp] theorem perform_put (f : Fact) (l : Ledger) :
    (put f).perform l = (.ok (), { l with bins := l.bins.push f }) :=
  rfl

@[simp] theorem perform_warn (w : Warning) (l : Ledger) :
    (warn w).perform l = (.ok (), { l with warnings := l.warnings ++ [w] }) :=
  rfl

@[simp] theorem perform_fail (f : Failure) (l : Ledger) : (fail f).perform l = (.error f, l) :=
  rfl

/-- A program writes what an extraction says, whatever the ledger holds. -/
def Writes (w : Writing Unit) (e : Extraction) : Prop :=
  ∀ l : Ledger, w.perform l = (e.outcome, l.add e)

namespace Writes

theorem pure_empty : Writes (pure ()) .empty := by
  intro l
  rw [perform_pure, l.add_empty]
  rfl

theorem put (f : Fact) : Writes (.put f) (.ofFacts [f]) := by
  intro l
  rw [perform_put]
  simp only [Extraction.outcome, Extraction.ofFacts, Ledger.add, List.append_nil]
  rfl

theorem warn (w : Warning) : Writes (.warn w) (.warn w) := by
  intro l
  rw [perform_warn]
  rfl

theorem fail (f : Failure) : Writes (.fail f) (.fail f) := by
  intro l
  rw [perform_fail]
  simp only [Extraction.outcome, Extraction.fail, Ledger.add, List.append_nil]
  rfl

/-- Programs one after the other write extractions one after the other. -/
theorem andThen {v w : Writing Unit} {a b : Extraction} (first : Writes v a) (second : Writes w b) :
    Writes (do v; w) (a ++ b) := by
  intro l
  rw [perform_bind, first l]
  cases failed : a.failure with
  | none =>
      rw [Extraction.append_of_none b failed, Extraction.outcome_of_none failed]
      simp only
      rw [second]
      simp only [Extraction.outcome, Ledger.add, Bins.pushAll_append, List.append_assoc]
  | some failure =>
      rw [Extraction.append_of_failure b failed, Extraction.outcome_of_some failed]

/-- Writing under a condition writes nothing without it. -/
theorem when {w : Writing Unit} {fs : List Fact} (condition : Bool)
    (writes : Writes w (.ofFacts fs)) :
    Writes (.when condition w) (.ofFacts (if condition then fs else [])) := by
  cases condition with
  | false => exact pure_empty
  | true => exact writes

/-- A loop writes the extractions of its elements. -/
theorem each {write : α → Writing Unit} {extract : α → Extraction} {xs : List α}
    (element : ∀ x ∈ xs, Writes (write x) (extract x)) :
    Writes (xs.forM write) (.each xs extract) := by
  induction xs with
  | nil => exact pure_empty
  | cons x xs ih =>
      have first := element x List.mem_cons_self
      have rest := ih fun y member => element y (List.mem_cons_of_mem x member)
      exact first.andThen rest

/-- A program for each element of a list writes their extractions one after the other. -/
theorem eachIndexed {write : Nat → α → Writing Unit} {extract : Nat → α → Extraction}
    {xs : List α} (element : ∀ i, ∀ x ∈ xs, Writes (write i x) (extract i x)) :
    Writes (.eachIndexed xs write) (.eachIndexed xs extract) := by
  apply each
  rintro ⟨x, i⟩ member
  exact element i x (List.fst_mem_of_mem_zipIdx member)

/-- A loop whose elements only have facts writes the facts of all elements. -/
theorem flatMap {write : α → Writing Unit} {facts : α → List Fact} {xs : List α}
    (element : ∀ x ∈ xs, Writes (write x) (.ofFacts (facts x))) :
    Writes (xs.forM write) (.ofFacts (xs.flatMap facts)) := by
  rw [Extraction.ofFacts_flatMap]
  exact each element

/-- A loop that passes over elements writes the facts of the others. -/
theorem filter {write : α → Writing Unit} {facts : α → List Fact} {xs : List α} (p : α → Bool)
    (element : ∀ x ∈ xs, Writes (write x) (.ofFacts (facts x))) :
    Writes (xs.forM fun x => .when (p x) (write x)) (.ofFacts ((xs.filter p).flatMap facts)) := by
  have spread : (xs.filter p).flatMap facts = xs.flatMap fun x => if p x then facts x else [] := by
    induction xs with
    | nil => rfl
    | cons x xs ih =>
        have rest := ih fun y member => element y (List.mem_cons_of_mem x member)
        by_cases kept : p x
        · rw [List.filter_cons_of_pos kept, List.flatMap_cons, List.flatMap_cons, rest]
          simp only [kept, ↓reduceIte]
        · rw [List.filter_cons_of_neg kept, List.flatMap_cons, rest]
          simp only [kept, Bool.false_eq_true, ↓reduceIte, List.nil_append]
  rw [spread]
  exact flatMap fun x member => when (p x) (element x member)

/-- A loop that puts one fact for each element. -/
theorem map (fact : α → Fact) (xs : List α) :
    Writes (xs.forM fun x => .put (fact x)) (.ofFacts (xs.map fact)) := by
  rw [List.map_eq_flatMap]
  exact flatMap fun x _ => put (fact x)

/-- Programs that only put facts, one after the other. -/
theorem append {v w : Writing Unit} {fs gs : List Fact} (first : Writes v (.ofFacts fs))
    (second : Writes w (.ofFacts gs)) : Writes (do v; w) (.ofFacts (fs ++ gs)) := by
  rw [Extraction.ofFacts_append]
  exact first.andThen second

/-- A value that may be missing is a list with at most one element. -/
theorem option {write : α → Writing Unit} {e : Extraction} {o : Option α}
    (writes : Writes (o.toList.forM write) e) : Writes (o.forM write) e := by
  cases o with
  | none => exact writes
  | some a =>
      have single : ([a].forM write : Writing Unit) = write a := bind_pure (write a)
      rwa [Option.toList_some, single] at writes

end Writes

end Writing

end ConfigFacts
