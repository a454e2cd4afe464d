import ConfigFacts.Bins

/-!
# What is in the bins

The text of a kind is read back from the operations on bins: pushing facts writes their lines behind
the text of their kinds (`Bins.get_pushAll`), and appending bins joins the texts kind by kind
(`Bins.get_append`). Bins with the same texts are equal (`Bins.eq_of_get`).
-/

namespace ConfigFacts

/-- Different kinds have different numbers. -/
theorem FactKind.index_injective {k k' : FactKind} (same : k.index = k'.index) : k = k' := by
  have found := getElem?_all_index k
  rw [same, getElem?_all_index k'] at found
  exact (Option.some.inj found).symm

/-- Every number below the number of kinds is the number of a kind. -/
theorem FactKind.exists_index {i : Nat} (small : i < count) : ∃ k : FactKind, k.index = i := by
  have kinds : ∀ i : Fin count, ∃ k ∈ all, k.index = i.val := by decide
  obtain ⟨k, _, number⟩ := kinds ⟨i, small⟩
  exact ⟨k, number⟩

/-- The text that facts have in the bin of a kind. -/
def Fact.text (k : FactKind) (fs : List Fact) : String :=
  String.join ((fs.filter fun f => f.kind = k).map fun f => f.line ++ "\n")

namespace Fact

@[simp] theorem text_nil (k : FactKind) : text k [] = "" := by
  simp [text]

/-- The text of facts behind each other is that of the first ones and that of the others. -/
theorem text_append (k : FactKind) (fs gs : List Fact) :
    text k (fs ++ gs) = text k fs ++ text k gs := by
  simp only [text, List.filter_append, List.map_append, String.join_append]

private theorem text_cons_self (f : Fact) (fs : List Fact) :
    text f.kind (f :: fs) = f.line ++ "\n" ++ text f.kind fs := by
  simp only [text, List.filter_cons, decide_true, ↓reduceIte, List.map_cons, String.join_cons]

private theorem text_cons_of_ne {k : FactKind} {f : Fact} (other : f.kind ≠ k) (fs : List Fact) :
    text k (f :: fs) = text k fs := by
  simp only [text, List.filter_cons, other, decide_false, Bool.false_eq_true, ↓reduceIte]

/-- The text of facts put together from parts joins the texts of the parts. -/
theorem text_flatMap {α : Type} (k : FactKind) (facts : α → List Fact) (xs : List α) :
    text k (xs.flatMap facts) = String.join (xs.map fun x => text k (facts x)) := by
  induction xs with
  | nil => rw [List.flatMap_nil, text_nil, List.map_nil, String.join_nil]
  | cons x xs ih => rw [List.flatMap_cons, text_append, ih, List.map_cons, String.join_cons]

/-- Facts of other kinds leave no text. -/
theorem text_eq_empty {k : FactKind} {fs : List Fact} (others : ∀ f ∈ fs, f.kind ≠ k) :
    text k fs = "" := by
  have none : fs.filter (fun f => f.kind = k) = [] :=
    List.filter_eq_nil_iff.2 fun f member => by simpa using others f member
  simp only [text, none, List.map_nil, String.join_nil]

end Fact

namespace Bins

variable (a b c : Bins) (k : FactKind)

private theorem get_eq_getElem :
    b.get k = b.texts[(⟨k.index, k.index_lt_count⟩ : Fin FactKind.count)] := rfl

@[simp] theorem get_empty : Bins.empty.get k = "" := by
  simp [get_eq_getElem, Bins.empty]

/-- A line goes to the end of its own bin. -/
theorem get_pushLine_self (line : String) :
    (b.pushLine k line).get k = b.get k ++ (line ++ "\n") := by
  simp [get_eq_getElem, pushLine]

/-- A line changes no bin of another kind. -/
theorem get_pushLine_of_ne {k k' : FactKind} (other : k ≠ k') (line : String) :
    (b.pushLine k line).get k' = b.get k' := by
  have different : k.index ≠ k'.index := fun same => other (FactKind.index_injective same)
  simp [get_eq_getElem, pushLine, different]

/-- A fact is written behind the text of its kind and nowhere else. -/
theorem get_push (f : Fact) : (b.push f).get k = b.get k ++ Fact.text k [f] := by
  by_cases same : f.kind = k
  · subst same
    rw [Bins.push, get_pushLine_self, Fact.text_cons_self, Fact.text_nil, String.append_empty]
  · rw [Bins.push, get_pushLine_of_ne b same, Fact.text_cons_of_ne same, Fact.text_nil,
      String.append_empty]

/-- Facts are written behind the texts of their kinds, in order. -/
theorem get_pushAll (fs : List Fact) : (b.pushAll fs).get k = b.get k ++ Fact.text k fs := by
  induction fs generalizing b with
  | nil => simp [pushAll]
  | cons f fs ih =>
      have step : b.pushAll (f :: fs) = (b.push f).pushAll fs := rfl
      rw [step, ih, get_push, String.append_assoc, ← Fact.text_append, List.singleton_append]

/-- The bins of facts hold the texts of the facts. -/
theorem get_ofFacts (fs : List Fact) : (ofFacts fs).get k = Fact.text k fs := by
  rw [ofFacts, get_pushAll, get_empty, String.empty_append]

/-- Bins are appended kind by kind. -/
theorem get_append : (a ++ b).get k = a.get k ++ b.get k := by
  change (Bins.append a b).get k = _
  simp [get_eq_getElem, Bins.append]

variable {a b} in
/-- The texts of all kinds determine the bins. -/
theorem eq_of_get (same : ∀ k, a.get k = b.get k) : a = b := by
  obtain ⟨left⟩ := a
  obtain ⟨right⟩ := b
  congr 1
  apply Vector.ext
  intro i small
  obtain ⟨k, rfl⟩ := FactKind.exists_index small
  exact same k

theorem append_assoc : a ++ b ++ c = a ++ (b ++ c) := by
  apply eq_of_get
  intro k
  simp only [get_append, String.append_assoc]

theorem empty_append : empty ++ b = b := by
  apply eq_of_get
  intro k
  rw [get_append, get_empty, String.empty_append]

theorem append_empty : b ++ empty = b := by
  apply eq_of_get
  intro k
  rw [get_append, get_empty, String.append_empty]

/-- Facts can be pushed in two parts. -/
theorem pushAll_append (fs gs : List Fact) :
    b.pushAll (fs ++ gs) = (b.pushAll fs).pushAll gs := by
  simp only [pushAll, List.foldl_append]

/-- The texts of several bins joined kind by kind. -/
def concat (bs : List Bins) : Bins :=
  bs.foldl append empty

private theorem get_foldl_append (start : Bins) (bs : List Bins) :
    (bs.foldl append start).get k = start.get k ++ String.join (bs.map fun b => b.get k) := by
  induction bs generalizing start with
  | nil => simp
  | cons b bs ih =>
      rw [List.foldl_cons, ih, List.map_cons, String.join_cons, ← String.append_assoc]
      exact congrArg (· ++ _) (get_append start b k)

/-- Bins are concatenated kind by kind. -/
theorem get_concat (bs : List Bins) :
    (concat bs).get k = String.join (bs.map fun b => b.get k) := by
  rw [concat, get_foldl_append, get_empty, String.empty_append]

end Bins

end ConfigFacts
