/-!
# Sorted maps

Finite maps as lists of entries with strictly increasing keys, so that two maps with the same
entries are equal and every traversal follows the key order.
-/

namespace ConfigFacts

/-- A finite map whose entries are listed by increasing key. -/
structure SortedMap (κ : Type) (α : Type) [Ord κ] where
  /-- The entries, in key order. -/
  entries : List (κ × α)
  /-- The keys increase strictly. -/
  sorted : entries.Pairwise fun a b => compare a.1 b.1 = .lt

namespace SortedMap

variable {κ α β : Type} [Ord κ]

/-- The map without entries. -/
def empty : SortedMap κ α :=
  ⟨[], .nil⟩

instance : Inhabited (SortedMap κ α) :=
  ⟨empty⟩

instance [DecidableEq κ] [DecidableEq α] : DecidableEq (SortedMap κ α) := fun m n =>
  if same : m.entries = n.entries then
    isTrue (by cases m; cases n; simp_all)
  else
    isFalse fun equal => same (equal ▸ rfl)

/-- Two maps with the same entries are equal. -/
@[ext] theorem ext {m n : SortedMap κ α} (same : m.entries = n.entries) : m = n := by
  cases m; cases n; simp_all

/-- Puts an entry at its place; an entry with the same key gives way. -/
def insertEntry (k : κ) (v : α) : List (κ × α) → List (κ × α)
  | [] => [(k, v)]
  | e :: rest =>
    match compare k e.1 with
    | .lt => (k, v) :: e :: rest
    | .eq => (k, v) :: rest
    | .gt => e :: insertEntry k v rest

theorem mem_insertEntry {k : κ} {v : α} {e : κ × α} {es : List (κ × α)}
    (member : e ∈ insertEntry k v es) : e = (k, v) ∨ e ∈ es := by
  induction es with
  | nil => simpa [insertEntry] using member
  | cons first rest ih =>
    unfold insertEntry at member
    split at member
    · simpa using member
    · rcases List.mem_cons.1 member with equal | later
      · exact .inl equal
      · exact .inr (List.mem_cons_of_mem _ later)
    · rcases List.mem_cons.1 member with equal | later
      · exact .inr (equal ▸ List.mem_cons_self)
      · exact (ih later).imp_right (List.mem_cons_of_mem _)

theorem pairwise_insertEntry [Std.TransOrd κ] [Std.LawfulEqOrd κ] {k : κ} {v : α}
    {es : List (κ × α)} (sorted : es.Pairwise fun a b => compare a.1 b.1 = .lt) :
    (insertEntry k v es).Pairwise fun a b => compare a.1 b.1 = .lt := by
  induction es with
  | nil => simp [insertEntry]
  | cons first rest ih =>
    obtain ⟨before, sortedRest⟩ := List.pairwise_cons.1 sorted
    unfold insertEntry
    split
    next less =>
      refine List.pairwise_cons.2 ⟨fun e member => ?_, sorted⟩
      rcases List.mem_cons.1 member with equal | later
      · exact equal ▸ less
      · exact Std.TransCmp.lt_trans less (before e later)
    next same =>
      have : k = first.1 := Std.LawfulEqCmp.eq_of_compare same
      exact List.pairwise_cons.2 ⟨fun e member => this ▸ before e member, sortedRest⟩
    next greater =>
      refine List.pairwise_cons.2 ⟨fun e member => ?_, ih sortedRest⟩
      rcases mem_insertEntry member with equal | later
      · exact equal ▸ Std.OrientedCmp.gt_iff_lt.1 greater
      · exact before e later

/-- The map with one more entry, which replaces an entry with the same key. -/
def insert [Std.TransOrd κ] [Std.LawfulEqOrd κ] (m : SortedMap κ α) (k : κ) (v : α) :
    SortedMap κ α :=
  ⟨insertEntry k v m.entries, pairwise_insertEntry m.sorted⟩

/-- The map of a list of entries; of several entries with one key the last one stays. -/
def ofList [Std.TransOrd κ] [Std.LawfulEqOrd κ] (es : List (κ × α)) : SortedMap κ α :=
  es.foldl (fun m e => m.insert e.1 e.2) empty

/-- The value stored under a key. -/
def get? (m : SortedMap κ α) (k : κ) : Option α :=
  (m.entries.find? fun e => compare e.1 k == .eq).map Prod.snd

/-- The keys, in order. -/
def keys (m : SortedMap κ α) : List κ :=
  m.entries.map Prod.fst

/-- The values, in key order. -/
def values (m : SortedMap κ α) : List α :=
  m.entries.map Prod.snd

/-- The number of entries. -/
def size (m : SortedMap κ α) : Nat :=
  m.entries.length

end SortedMap

end ConfigFacts
