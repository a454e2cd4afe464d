import ConfigFacts.SortedMap
import Mathlib.Data.List.Nodup

/-!
# Looking up in sorted maps

What `SortedMap.get?` finds after an insertion, and that it determines the map: the entries are
exactly the pairs that can be looked up (`SortedMap.mem_entries_iff`), and two maps that answer
alike are equal (`SortedMap.eq_of_get?`). Maps that answer alike off one key have the same entries
off this key (`SortedMap.AgreesOff.filter_flatMap`). A map is the map of its entries
(`SortedMap.ofList_entries`).
-/

namespace ConfigFacts.SortedMap

variable {κ α : Type} [Ord κ]

@[simp] theorem get?_empty (k : κ) : (empty : SortedMap κ α).get? k = none := rfl

variable [Std.LawfulEqOrd κ]

theorem compare_self (k : κ) : compare k k = .eq :=
  Std.ReflCmp.compare_self

private theorem find?_cons_self (k : κ) (v : α) (es : List (κ × α)) :
    (((k, v) :: es).find? fun e => compare e.1 k == .eq) = some (k, v) := by
  rw [List.find?_cons]
  simp only [compare_self, beq_self_eq_true]

private theorem find?_cons_of_ne {k : κ} {e : κ × α} (other : e.1 ≠ k) (es : List (κ × α)) :
    ((e :: es).find? fun e => compare e.1 k == .eq) = es.find? fun e => compare e.1 k == .eq := by
  have absent : (compare e.1 k == .eq) = false :=
    beq_eq_false_iff_ne.2 fun same => other (Std.LawfulEqCmp.eq_of_compare same)
  rw [List.find?_cons]
  simp only [absent]

/-- What is found under a key has this key. -/
theorem key_of_find? {k : κ} {e : κ × α} {es : List (κ × α)}
    (found : (es.find? fun e => compare e.1 k == .eq) = some e) : e.1 = k := by
  have matching : (compare e.1 k == .eq) = true := by
    simpa only using List.find?_some found
  exact Std.LawfulEqCmp.eq_of_compare (beq_iff_eq.1 matching)

/-- Something is found under every key of a list. -/
theorem find?_ne_none {k : κ} {v : α} {es : List (κ × α)} (member : (k, v) ∈ es) :
    (es.find? fun e => compare e.1 k == .eq) ≠ none := by
  intro missing
  have missed := List.find?_eq_none.1 missing (k, v) member
  rw [compare_self] at missed
  exact missed rfl

private theorem find?_insertEntry_self (k : κ) (v : α) (es : List (κ × α)) :
    ((insertEntry k v es).find? fun e => compare e.1 k == .eq) = some (k, v) := by
  induction es with
  | nil => exact find?_cons_self k v []
  | cons e rest ih =>
      unfold insertEntry
      split
      next => exact find?_cons_self k v _
      next => exact find?_cons_self k v _
      next greater =>
        have different : e.1 ≠ k := by
          rintro rfl
          rw [compare_self] at greater
          cases greater
        rw [find?_cons_of_ne different]
        exact ih

private theorem find?_insertEntry_of_ne {k k' : κ} (other : k ≠ k') (v : α) (es : List (κ × α)) :
    ((insertEntry k v es).find? fun e => compare e.1 k' == .eq) =
      es.find? fun e => compare e.1 k' == .eq := by
  induction es with
  | nil => exact find?_cons_of_ne other []
  | cons e rest ih =>
      unfold insertEntry
      split
      next => exact find?_cons_of_ne other _
      next same =>
        have key : k = e.1 := Std.LawfulEqCmp.eq_of_compare same
        rw [find?_cons_of_ne other, find?_cons_of_ne (key ▸ other)]
      next => rw [List.find?_cons, List.find?_cons, ih]

/-- The entries of a map are what can be looked up in it. -/
theorem mem_entries_iff (m : SortedMap κ α) (k : κ) (v : α) :
    (k, v) ∈ m.entries ↔ m.get? k = some v := by
  obtain ⟨es, sorted⟩ := m
  change _ ↔ (es.find? fun e => compare e.1 k == .eq).map Prod.snd = some v
  constructor
  · intro member
    induction es with
    | nil => cases member
    | cons e rest ih =>
        obtain ⟨before, sortedRest⟩ := List.pairwise_cons.1 sorted
        rcases List.mem_cons.1 member with rfl | later
        · rw [find?_cons_self, Option.map_some]
        · have different : e.1 ≠ k := by
            intro same
            have less := before (k, v) later
            rw [same, compare_self] at less
            cases less
          rw [find?_cons_of_ne different]
          exact ih sortedRest later
  · intro found
    obtain ⟨⟨key, value⟩, present, rfl⟩ := Option.map_eq_some_iff.1 found
    obtain rfl : key = k := key_of_find? present
    exact List.mem_of_find?_eq_some present

private theorem entries_nodup (m : SortedMap κ α) : m.entries.Nodup := by
  refine m.sorted.imp ?_
  rintro a b less rfl
  rw [compare_self] at less
  cases less

/-- What only the entry of one key has is what the value under this key has. -/
theorem flatMap_entries {β : Type} (m : SortedMap κ α) {k : κ} {f : κ × α → List β}
    (others : ∀ e ∈ m.entries, e.1 ≠ k → f e = []) :
    m.entries.flatMap f = (m.get? k).elim [] fun v => f (k, v) := by
  cases found : m.get? k with
  | none =>
      refine List.flatMap_eq_nil_iff.2 fun e member => others e member ?_
      rintro rfl
      rw [(m.mem_entries_iff e.1 e.2).1 member] at found
      cases found
  | some v =>
      obtain ⟨before, behind, entries⟩ := List.append_of_mem ((m.mem_entries_iff k v).2 found)
      have sorted := m.sorted
      rw [entries] at sorted others ⊢
      obtain ⟨_, sortedBehind, less⟩ := List.pairwise_append.1 sorted
      have front : before.flatMap f = [] := by
        refine List.flatMap_eq_nil_iff.2 fun e member => ?_
        refine others e (List.mem_append_left _ member) ?_
        rintro rfl
        have smaller := less e member _ List.mem_cons_self
        rw [compare_self] at smaller
        cases smaller
      have rest : behind.flatMap f = [] := by
        refine List.flatMap_eq_nil_iff.2 fun e member => ?_
        refine others e (List.mem_append_right _ (List.mem_cons_of_mem _ member)) ?_
        rintro rfl
        have greater := (List.pairwise_cons.1 sortedBehind).1 e member
        rw [compare_self] at greater
        cases greater
      rw [List.flatMap_append, List.flatMap_cons, front, rest, List.nil_append, List.append_nil]
      rfl

variable [Std.TransOrd κ]

/-- A key that is inserted has its new value. -/
theorem get?_insert_self (m : SortedMap κ α) (k : κ) (v : α) : (m.insert k v).get? k = some v := by
  unfold get? insert
  rw [find?_insertEntry_self, Option.map_some]

/-- A key that is inserted leaves the values of the others. -/
theorem get?_insert_of_ne (m : SortedMap κ α) {k k' : κ} (other : k ≠ k') (v : α) :
    (m.insert k v).get? k' = m.get? k' := by
  unfold get? insert
  rw [find?_insertEntry_of_ne other]

private theorem get?_foldl_insert (m : SortedMap κ α) (es : List (κ × α)) (k : κ) :
    (es.foldl (fun m e => m.insert e.1 e.2) m).get? k =
      ((es.reverse.find? fun e => compare e.1 k == .eq).map Prod.snd).or (m.get? k) := by
  induction es generalizing m with
  | nil => rfl
  | cons e rest ih =>
      rw [List.foldl_cons, ih, List.reverse_cons, List.find?_append]
      by_cases key : e.1 = k
      · obtain ⟨_, v⟩ := e
        subst key
        rw [get?_insert_self, find?_cons_self]
        cases rest.reverse.find? _ <;> rfl
      · rw [get?_insert_of_ne m key, find?_cons_of_ne key]
        cases rest.reverse.find? _ <;> rfl

/-- The map of a list holds the last value that the list has for a key. -/
theorem get?_ofList (es : List (κ × α)) (k : κ) :
    (ofList es).get? k = (es.reverse.find? fun e => compare e.1 k == .eq).map Prod.snd := by
  rw [ofList, get?_foldl_insert, get?_empty, Option.or_none]

/-- The map that holds under each of some keys what a function has for it. -/
def tabulate (keys : List κ) (f : κ → Option α) : SortedMap κ α :=
  ofList (keys.filterMap fun k => (f k).map fun v => (k, v))

/-- A tabulated function is looked up, if it has nothing for keys outside the table. -/
theorem get?_tabulate {keys : List κ} {f : κ → Option α} (outside : ∀ k, k ∉ keys → f k = none)
    (k : κ) : (tabulate keys f).get? k = f k := by
  have entry {e : κ × α} (member : e ∈ keys.filterMap fun k => (f k).map fun v => (k, v)) :
      f e.1 = some e.2 := by
    obtain ⟨key, _, found⟩ := List.mem_filterMap.1 member
    obtain ⟨v, value, rfl⟩ := Option.map_eq_some_iff.1 found
    exact value
  rw [tabulate, get?_ofList]
  cases found : List.find? _ _ with
  | some e =>
      have listed := List.mem_reverse.1 (List.mem_of_find?_eq_some found)
      rw [Option.map_some, ← key_of_find? found, entry listed]
  | none =>
      cases value : f k with
      | none => rfl
      | some v =>
          have listed : k ∈ keys := Classical.byContradiction fun absent => by
            rw [outside k absent] at value
            cases value
          have member : (k, v) ∈ keys.filterMap fun k => (f k).map fun v => (k, v) :=
            List.mem_filterMap.2 ⟨k, listed, by rw [value, Option.map_some]⟩
          exact absurd found (find?_ne_none (List.mem_reverse.2 member))

/-- Maps in which the same values are looked up under some keys have the same entries there. -/
theorem filter_entries_congr {m n : SortedMap κ α} {p : κ → Bool}
    (same : ∀ k, p k = true → m.get? k = n.get? k) :
    (m.entries.filter fun e => p e.1) = n.entries.filter fun e => p e.1 := by
  have entries : (m.entries.filter fun e => p e.1).Perm (n.entries.filter fun e => p e.1) := by
    apply (List.perm_ext_iff_of_nodup (m.entries_nodup.filter _) (n.entries_nodup.filter _)).2
    rintro ⟨k, v⟩
    rw [List.mem_filter, List.mem_filter, mem_entries_iff, mem_entries_iff]
    exact and_congr_left fun chosen => by rw [same k chosen]
  refine List.Perm.eq_of_pairwise ?_ (m.sorted.filter _) (n.sorted.filter _) entries
  intro a b _ _ less greater
  exact absurd greater (Std.OrientedCmp.not_lt_of_lt less)

/-- Maps in which the same values are looked up are equal. -/
theorem eq_of_get? {m n : SortedMap κ α} (same : ∀ k, m.get? k = n.get? k) : m = n := by
  have entries := filter_entries_congr (p := fun _ => true) fun k _ => same k
  rw [List.filter_true, List.filter_true] at entries
  exact ext entries

omit [Std.LawfulEqOrd κ] [Std.TransOrd κ] in
/-- Two maps have the same values under all keys but one. -/
def AgreesOff (m : SortedMap κ α) (k : κ) (n : SortedMap κ α) : Prop :=
  ∀ other, other ≠ k → m.get? other = n.get? other

/-- What maps have in common off a key shows alike in them, if what stands under the key does not
show. -/
theorem AgreesOff.filter_flatMap {β : Type} [DecidableEq κ] {m n : SortedMap κ α} {k : κ}
    (agrees : m.AgreesOff k n) {f : κ × α → List β} {p : β → Bool}
    (hidden : ∀ v, ∀ b ∈ f (k, v), p b = false) :
    (m.entries.flatMap f).filter p = (n.entries.flatMap f).filter p := by
  have shown (es : List (κ × α)) :
      (es.flatMap f).filter p = ((es.filter fun e => e.1 ≠ k).flatMap f).filter p := by
    induction es with
    | nil => rfl
    | cons e es ih =>
        rw [List.flatMap_cons, List.filter_append, ih]
        by_cases key : e.1 = k
        · have nothing : (f e).filter p = [] := by
            obtain ⟨_, v⟩ := e
            subst key
            exact List.filter_eq_nil_iff.2 fun b member => by rw [hidden v b member]; exact nofun
          rw [nothing, List.nil_append, List.filter_cons_of_neg (by simpa using key)]
        · rw [List.filter_cons_of_pos (by simpa using key), List.flatMap_cons, List.filter_append]
  rw [shown m.entries, shown n.entries, filter_entries_congr (p := fun key => key ≠ k)]
  exact fun other different => agrees other (of_decide_eq_true different)

omit [Std.LawfulEqOrd κ] in
private theorem insertEntry_of_forall_lt {k : κ} {v : α} {es : List (κ × α)}
    (last : ∀ e ∈ es, compare e.1 k = .lt) : insertEntry k v es = es ++ [(k, v)] := by
  induction es with
  | nil => rfl
  | cons e rest ih =>
      obtain ⟨first, later⟩ := List.forall_mem_cons.1 last
      rw [insertEntry, Std.OrientedCmp.gt_iff_lt.2 first]
      simp only [ih later, List.cons_append]

private theorem entries_foldl_insert {m : SortedMap κ α} {es : List (κ × α)}
    (sorted : (m.entries ++ es).Pairwise fun a b => compare a.1 b.1 = .lt) :
    (es.foldl (fun m e => m.insert e.1 e.2) m).entries = m.entries ++ es := by
  induction es generalizing m with
  | nil => rw [List.append_nil, List.foldl_nil]
  | cons e rest ih =>
      have inserted : (m.insert e.1 e.2).entries = m.entries ++ [e] :=
        insertEntry_of_forall_lt fun earlier member =>
          (List.pairwise_append.1 sorted).2.2 earlier member e List.mem_cons_self
      rw [List.foldl_cons, ih, inserted, List.append_assoc, List.singleton_append]
      rwa [inserted, List.append_assoc, List.singleton_append]

/-- With keys that are all different, the map of a list holds exactly what the list has. -/
theorem get?_ofList_eq_some_iff {es : List (κ × α)} (distinct : (es.map Prod.fst).Nodup) {k : κ}
    {v : α} : (ofList es).get? k = some v ↔ (k, v) ∈ es := by
  rw [get?_ofList, Option.map_eq_some_iff]
  constructor
  · rintro ⟨e, found, rfl⟩
    rw [← key_of_find? found]
    exact List.mem_reverse.1 (List.mem_of_find?_eq_some found)
  · intro member
    obtain ⟨e, found⟩ := Option.ne_none_iff_exists'.1 (find?_ne_none (List.mem_reverse.2 member))
    have listed : e ∈ es := List.mem_reverse.1 (List.mem_of_find?_eq_some found)
    have same : e = (k, v) := List.inj_on_of_nodup_map distinct listed member (key_of_find? found)
    exact ⟨e, found, congrArg Prod.snd same⟩

/-- A map from distinct keys has the entries that it is made from. -/
theorem entries_ofList_perm {es : List (κ × α)} (distinct : (es.map Prod.fst).Nodup) :
    (ofList es).entries.Perm es := by
  apply (List.perm_ext_iff_of_nodup (ofList es).entries_nodup (.of_map Prod.fst distinct)).2
  rintro ⟨k, v⟩
  rw [mem_entries_iff, get?_ofList_eq_some_iff distinct]

/-- A map is the map of its entries. -/
@[simp] theorem ofList_entries (m : SortedMap κ α) : ofList m.entries = m :=
  ext (entries_foldl_insert m.sorted)

end ConfigFacts.SortedMap
