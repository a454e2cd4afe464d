import ConfigFacts.Proofs.Wire.Reading

/-!
# Histories of bins

Several bins are written side by side: facts are pushed into them, and the texts of some are
appended to others. Beside each of the bins runs the list of the facts that came into it
(`BinsStep.written`). Every operation keeps the two in step (`BinsStep.get_apply`), and so does every
history (`BinsStep.get_run`). When all pushed facts are plain, the bins are read back as these lists,
and two histories leave equal bins exactly when they wrote the same fields under every kind
(`BinsStep.run_uniquely_readable`).
-/

namespace ConfigFacts

/-- An operation on bins under names. -/
inductive BinsStep (ι : Type) where
  /-- A fact is pushed into some bins. -/
  | push (target : ι) (f : Fact)
  /-- All texts of some bins, as they stand, are appended to those of others or to their own. -/
  | append (target source : ι)

namespace BinsStep

variable {ι : Type} [DecidableEq ι]

/-- The bins after an operation. -/
def apply (bins : ι → Bins) : BinsStep ι → ι → Bins
  | push target f, i => if i = target then (bins i).push f else bins i
  | append target source, i => if i = target then bins i ++ bins source else bins i

/-- The facts that came into each of the bins, after an operation. -/
def record (log : ι → List Fact) : BinsStep ι → ι → List Fact
  | push target f, i => if i = target then log i ++ [f] else log i
  | append target source, i => if i = target then log i ++ log source else log i

/-- The bins after a history that starts with empty ones. -/
def run (steps : List (BinsStep ι)) : ι → Bins :=
  steps.foldl apply fun _ => .empty

/-- The facts that a history wrote into each of the bins, in order. -/
def written (steps : List (BinsStep ι)) : ι → List Fact :=
  steps.foldl record fun _ => []

/-- Whether an operation writes nothing that a line would blur. -/
def IsPlain : BinsStep ι → Prop
  | push _ f => f.IsPlain
  | append _ _ => True

/-- Some bins hold the texts of some facts, all of them plain. -/
structure Mirrors (bins : ι → Bins) (log : ι → List Fact) : Prop where
  text : ∀ i k, (bins i).get k = Fact.text k (log i)
  plain : ∀ i, ∀ f ∈ log i, f.IsPlain

/-- What an operation pushes has a property. -/
def Pushes (P : Fact → Prop) : BinsStep ι → Prop
  | push _ f => P f
  | append _ _ => True

instance (P : Fact → Prop) [DecidablePred P] : DecidablePred (Pushes (ι := ι) P)
  | push _ f => inferInstanceAs (Decidable (P f))
  | append _ _ => .isTrue trivial

section Log

variable {bins : ι → Bins} {log : ι → List Fact} {P : Fact → Prop}

/-- An operation writes into the bins what it records. -/
theorem get_apply (text : ∀ i k, (bins i).get k = Fact.text k (log i)) (s : BinsStep ι) (i : ι)
    (k : FactKind) : (s.apply bins i).get k = Fact.text k (s.record log i) := by
  cases s with
  | push target f =>
      by_cases own : i = target
      · simp only [BinsStep.apply, record, own, ↓reduceIte]
        rw [Bins.get_push, text, Fact.text_append]
      · simp only [BinsStep.apply, record, own, ↓reduceIte]
        exact text i k
  | append target source =>
      by_cases own : i = target
      · simp only [BinsStep.apply, record, own, ↓reduceIte]
        rw [Bins.get_append, text, text, Fact.text_append]
      · simp only [BinsStep.apply, record, own, ↓reduceIte]
        exact text i k

/-- An operation records nothing but what it pushes and what was recorded before. -/
theorem forall_record (before : ∀ i, ∀ f ∈ log i, P f) {s : BinsStep ι} (pushes : s.Pushes P)
    (i : ι) : ∀ f ∈ s.record log i, P f := by
  cases s with
  | push target f =>
      by_cases own : i = target
      · simp only [record, own, ↓reduceIte]
        exact List.forall_mem_append.2 ⟨before target, List.forall_mem_singleton.2 pushes⟩
      · simp only [record, own, ↓reduceIte]
        exact before i
  | append target source =>
      by_cases own : i = target
      · simp only [record, own, ↓reduceIte]
        exact List.forall_mem_append.2 ⟨before target, before source⟩
      · simp only [record, own, ↓reduceIte]
        exact before i

private theorem get_foldl (text : ∀ i k, (bins i).get k = Fact.text k (log i))
    (steps : List (BinsStep ι))
    (i : ι) (k : FactKind) :
    (steps.foldl BinsStep.apply bins i).get k = Fact.text k (steps.foldl record log i) := by
  induction steps generalizing bins log with
  | nil => exact text i k
  | cons s steps ih => exact ih (get_apply text s)

private theorem forall_foldl (before : ∀ i, ∀ f ∈ log i, P f) {steps : List (BinsStep ι)}
    (pushes : ∀ s ∈ steps, s.Pushes P) (i : ι) : ∀ f ∈ steps.foldl record log i, P f := by
  induction steps generalizing log with
  | nil => exact before i
  | cons s steps ih =>
      obtain ⟨first, later⟩ := List.forall_mem_cons.1 pushes
      exact ih (forall_record before first) later

end Log

/-- A history writes into the bins what it records, whatever the facts. -/
theorem get_run (steps : List (BinsStep ι)) (i : ι) (k : FactKind) :
    (run steps i).get k = Fact.text k (written steps i) :=
  get_foldl (fun _ k => by rw [Bins.get_empty, Fact.text_nil]) steps i k

/-- What holds of all facts that are pushed holds of all that are written. -/
theorem forall_written {P : Fact → Prop} {steps : List (BinsStep ι)}
    (pushes : ∀ s ∈ steps, s.Pushes P) (i : ι) : ∀ f ∈ written steps i, P f :=
  forall_foldl (fun _ => List.forall_mem_nil _) pushes i

omit [DecidableEq ι] in
private theorem isPlain_iff_pushes {s : BinsStep ι} : s.IsPlain ↔ s.Pushes Fact.IsPlain := by
  cases s <;> rfl

/-- A history of plain facts fills the bins with plain facts. -/
theorem mirrors_run {steps : List (BinsStep ι)} (plain : ∀ s ∈ steps, s.IsPlain) :
    Mirrors (run steps) (written steps) :=
  ⟨get_run steps, forall_written fun s member => isPlain_iff_pushes.1 (plain s member)⟩

/-- **Bins are uniquely readable.** After a history of plain facts, cutting the bins gives back the
fields of exactly the facts that came into them, in order. So two histories leave equal bins exactly
when they wrote the same fields under each kind. -/
theorem run_uniquely_readable {steps : List (BinsStep ι)} (plain : ∀ s ∈ steps, s.IsPlain) :
    (∀ i k, (run steps i).tuples k = Fact.tuples k (written steps i)) ∧
      ∀ {κ : Type} [DecidableEq κ] {others : List (BinsStep κ)}, (∀ s ∈ others, s.IsPlain) →
        ∀ i j, run steps i = run others j ↔
          ∀ k, Fact.tuples k (written steps i) = Fact.tuples k (written others j) := by
  have left := mirrors_run plain
  refine ⟨fun i k => Bins.tuples_of_text (left.text i k) (left.plain i), ?_⟩
  intro κ _ others plainOthers i j
  have right := mirrors_run plainOthers
  have texts (k : FactKind) : (run steps i).get k = (run others j).get k ↔
      Fact.tuples k (written steps i) = Fact.tuples k (written others j) := by
    rw [left.text, right.text]
    exact Fact.text_eq_iff (left.plain i) (right.plain j)
  constructor
  · intro same k
    exact (texts k).1 (congrArg (fun bins : Bins => bins.get k) same)
  · intro same
    exact Bins.eq_of_get fun k => (texts k).2 (same k)

/-- Two bins: the second one gets the fact of the first, a fact of its own, and then all of its own
texts again. The fields are empty, end in a carriage return or are not ASCII. -/
def doubled : List (BinsStep Bool) := [
  .push false ⟨.nodeVendor, ["r0", ""]⟩,
  .append true false,
  .push true ⟨.nodeVendor, ["größe", "\r"]⟩,
  .append true true]

theorem run_uniquely_readable_of_doubled :
    (run doubled true).tuples .nodeVendor =
      [["r0", ""], ["größe", "\r"], ["r0", ""], ["größe", "\r"]] ∧
    run doubled true ≠ run doubled false := by
  have plain : ∀ s ∈ doubled, s.IsPlain := by
    intro s member
    simp only [doubled, List.mem_cons, List.not_mem_nil, or_false] at member
    rcases member with rfl | rfl | rfl | rfl
    · exact ⟨by decide, by decide, by decide⟩
    · trivial
    · exact ⟨by decide, by decide, by decide⟩
    · trivial
  obtain ⟨readable, unique⟩ := run_uniquely_readable plain
  refine ⟨readable true .nodeVendor, fun same => ?_⟩
  have fields := (unique plain true false).1 same .nodeVendor
  exact absurd fields (by decide)

end BinsStep

end ConfigFacts
