import ConfigFacts.Proofs.FileTree.Path
import ConfigFacts.Proofs.SortedMap

/-!
# How file trees grow

Writing a file changes the tree at one place, where no folder stands
(`FileTree.write?_eq_some_iff`), and making folders only adds them, whether or not all of them can
be made (`FileTree.addsFolders_makeFolders`). So folders stay where they are
(`FileTree.KeepsFolders`), a path that leads somewhere leads there ever after
(`FileTree.KeepsFolders.filePlace?`), and one file does not keep another one from being written
(`FileTree.Accepts.of_write?`). A folder lists every name at most once (`FileTree.children_nodup`).
-/

namespace ConfigFacts

/-- The only element of a list with a property. -/
theorem filter_eq_singleton {α : Type} {as : List α} {p : α → Bool} {a : α} (nodup : as.Nodup)
    (member : a ∈ as) (only : ∀ b ∈ as, p b = true ↔ b = a) : as.filter p = [a] := by
  apply List.perm_singleton.1
  apply (List.perm_ext_iff_of_nodup (nodup.filter p) (List.nodup_singleton a)).2
  intro b
  rw [List.mem_filter, List.mem_singleton]
  constructor
  · rintro ⟨listed, kept⟩
    exact (only b listed).1 kept
  · rintro rfl
    exact ⟨member, (only b member).2 rfl⟩

namespace FileTree

variable {t u : FileTree}

/-- What is put at a place below the root stands there. -/
theorem node?_put_self {place : Place} (below : place ≠ []) (node : Node) :
    (t.put place node).node? place = some node := by
  rw [node?, if_neg below]
  exact SortedMap.get?_insert_self _ _ _

/-- What is put at a place changes no other place. -/
theorem node?_put_of_ne {place other : Place} (different : place ≠ other) (node : Node) :
    (t.put place node).node? other = t.node? other := by
  unfold node?
  by_cases root : other = []
  · rw [if_pos root, if_pos root]
  · rw [if_neg root, if_neg root]
    exact SortedMap.get?_insert_of_ne _ different _

/-! ### Folders stay -/

/-- A tree has all folders of another one, and the same current folder. -/
structure KeepsFolders (t u : FileTree) : Prop where
  /-- The current folder is the same. -/
  current : u.current = t.current
  /-- A folder stays where it is. -/
  folder : ∀ place, t.node? place = some .folder → u.node? place = some .folder

namespace KeepsFolders

theorem refl (t : FileTree) : t.KeepsFolders t :=
  ⟨rfl, fun _ found => found⟩

theorem trans {v : FileTree} (first : t.KeepsFolders u) (second : u.KeepsFolders v) :
    t.KeepsFolders v :=
  ⟨second.current.trans first.current,
    fun place found => second.folder place (first.folder place found)⟩

/-- A path starts where it did. -/
theorem origin? (keeps : t.KeepsFolders u) {path : String} {start : Place}
    (found : t.origin? path = some start) : u.origin? path = some start := by
  unfold FileTree.origin? at found ⊢
  split at found
  next rooted => rw [if_pos rooted]; exact found
  next relative =>
    rw [if_neg relative]
    split at found
    next there =>
      rw [keeps.current, if_pos (keeps.folder _ there)]
      exact found
    · cases found

/-- A name leads to the folder that it led to. -/
theorem enter? (keeps : t.KeepsFolders u) {place next : Place} {name : String}
    (entered : t.enter? place name = some next) : u.enter? place name = some next := by
  unfold FileTree.enter? at entered ⊢
  split at entered
  next stays => rw [if_pos stays]; exact entered
  next moves =>
    rw [if_neg moves]
    split at entered
    next back => rw [if_pos back]; exact entered
    next forward =>
      rw [if_neg forward]
      split at entered
      next folder => rw [keeps.folder _ folder]; exact entered
      · cases entered

/-- Names lead to the folder that they led to. -/
theorem follow? (keeps : t.KeepsFolders u) {path : List String} {place last : Place}
    (reached : t.follow? place path = some last) : u.follow? place path = some last := by
  unfold FileTree.follow? at reached ⊢
  induction path generalizing place with
  | nil => exact reached
  | cons name rest ih =>
      rw [List.foldlM_cons, Option.bind_eq_bind, Option.bind_eq_some_iff] at reached ⊢
      obtain ⟨next, entered, further⟩ := reached
      exact ⟨next, keeps.enter? entered, ih further⟩

/-- A path leads where it led. -/
theorem filePlace? (keeps : t.KeepsFolders u) {path : String} {place : Place}
    (found : t.filePlace? path = some place) : u.filePlace? path = some place := by
  obtain ⟨usable, name, last, proper, base, reached, found⟩ := filePlace?_eq_some_iff.1 found
  refine filePlace?_eq_some_iff.2 ⟨usable, name, last, proper, base, ?_, found⟩
  obtain ⟨start, started, followed⟩ := Option.bind_eq_some_iff.1 reached
  exact Option.bind_eq_some_iff.2 ⟨start, keeps.origin? started, keeps.follow? followed⟩

/-- The folder in which files behind a path are written stays the same. -/
theorem base? (keeps : t.KeepsFolders u) {path : String} {place : Place}
    (found : t.base? path = some place) : u.base? path = some place := by
  unfold FileTree.base? at found ⊢
  split at found
  next blank => rw [if_pos blank]; exact keeps.origin? found
  next something =>
    rw [if_neg something]
    obtain ⟨usable, start, started, followed⟩ := folder?_eq_some_iff.1 found
    exact folder?_eq_some_iff.2 ⟨usable, start, keeps.origin? started, keeps.follow? followed⟩

end KeepsFolders

/-! ### One change -/

/-- A file is written at the place that the path leads to, where no folder may be. -/
theorem write?_eq_some_iff {path text : String} : t.write? path text = some u ↔
    ∃ place, t.filePlace? path = some place ∧ t.node? place ≠ some .folder ∧
      t.put place (.file (some text)) = u := by
  unfold write?
  rw [Option.bind_eq_bind, Option.bind_eq_some_iff]
  refine exists_congr fun place => and_congr_right fun _ => ?_
  rw [guard_bind_eq_some_iff, Option.pure_def, Option.some.injEq]

/-- A file can be written to a path: the path leads to a place in a folder, where no folder
stands. -/
def Accepts (t : FileTree) (path : String) : Prop :=
  ∃ place, t.filePlace? path = some place ∧ t.node? place ≠ some .folder

/-- A path that is accepted can be written to. -/
theorem Accepts.exists_write? {path : String} (accepted : t.Accepts path) (text : String) :
    ∃ u, t.write? path text = some u := by
  obtain ⟨place, found, free⟩ := accepted
  exact ⟨_, write?_eq_some_iff.2 ⟨place, found, free, rfl⟩⟩

/-- A written file is no folder, and no folder gives way to it. -/
theorem folder_iff_of_write? {path text : String} (written : t.write? path text = some u)
    (place : Place) : u.node? place = some .folder ↔ t.node? place = some .folder := by
  obtain ⟨changed, found, free, rfl⟩ := write?_eq_some_iff.1 written
  by_cases here : changed = place
  · subst here
    have below : changed ≠ [] := by
      rintro rfl
      exact free rfl
    rw [node?_put_self below]
    exact ⟨fun folder => (nomatch folder), fun folder => absurd folder free⟩
  · rw [node?_put_of_ne here]

/-- Writing a file keeps all folders. -/
theorem keepsFolders_of_write? {path text : String} (written : t.write? path text = some u) :
    t.KeepsFolders u where
  current := by
    obtain ⟨changed, _, _, rfl⟩ := write?_eq_some_iff.1 written
    rfl
  folder place := (folder_iff_of_write? written place).2

/-- What can be written before another file can be written after it. -/
theorem Accepts.of_write? {path text other : String} (written : t.write? path text = some u)
    (accepted : t.Accepts other) : u.Accepts other := by
  obtain ⟨place, found, free⟩ := accepted
  refine ⟨place, (keepsFolders_of_write? written).filePlace? found, fun folder => ?_⟩
  exact free ((folder_iff_of_write? written place).1 folder)

/-- A file that is joined to the path of a folder is written into this folder. -/
theorem node?_of_write?_join {folder file text : String} (plain : '/' ∉ file.toList)
    (written : t.write? (join folder file) text = some u) :
    ∃ base, t.base? folder = some base ∧ u.node? (base ++ [file]) = some (.file (some text)) := by
  obtain ⟨place, found, _, rfl⟩ := write?_eq_some_iff.1 written
  obtain ⟨base, reached, rfl⟩ := base?_of_filePlace?_join plain found
  exact ⟨base, reached, node?_put_self (by simp) _⟩

/-- Two trees differ only in folders that the second one has where nothing is in the first one. -/
structure AddsFolders (t u : FileTree) : Prop where
  /-- The current folder is the same. -/
  current : u.current = t.current
  /-- A place that changes was empty and is a folder. -/
  node : ∀ place, u.node? place = t.node? place ∨
    (t.node? place = none ∧ u.node? place = some .folder)

namespace AddsFolders

theorem refl (t : FileTree) : t.AddsFolders t :=
  ⟨rfl, fun _ => .inl rfl⟩

theorem trans {v : FileTree} (first : t.AddsFolders u) (second : u.AddsFolders v) :
    t.AddsFolders v := by
  refine ⟨second.current.trans first.current, fun place => ?_⟩
  rcases second.node place with same | ⟨free, folder⟩
  · rw [same]
    exact first.node place
  · rcases first.node place with same | ⟨_, filled⟩
    · exact .inr ⟨same ▸ free, folder⟩
    · rw [filled] at free
      cases free

/-- A folder at a free place is an added one. -/
theorem put {place : Place} (free : t.node? place = none) :
    t.AddsFolders (t.put place .folder) := by
  refine ⟨rfl, fun other => ?_⟩
  by_cases here : place = other
  · subst here
    have below : place ≠ [] := by
      rintro rfl
      cases free
    exact .inr ⟨free, node?_put_self below _⟩
  · exact .inl (node?_put_of_ne here _)

/-- Everything stays at its place. -/
theorem node?_of_node? (grown : t.AddsFolders u) {place : Place} {node : Node}
    (there : t.node? place = some node) : u.node? place = some node := by
  rcases grown.node place with same | ⟨free, _⟩
  · rw [same, there]
  · rw [free] at there
    cases there

/-- A tree with added folders keeps its folders. -/
theorem keepsFolders (grown : t.AddsFolders u) : t.KeepsFolders u :=
  ⟨grown.current, fun _ there => grown.node?_of_node? there⟩

/-- Files are neither added nor changed. -/
theorem file_iff (grown : t.AddsFolders u) {place : Place} {text : Option String} :
    u.node? place = some (.file text) ↔ t.node? place = some (.file text) := by
  rcases grown.node place with same | ⟨free, folder⟩
  · rw [same]
  · rw [free, folder]
    exact ⟨nofun, nofun⟩

end AddsFolders

private theorem addsFolders_of_makeFolder? {name : String} {place next : Place}
    (made : t.makeFolder? place name = some (u, next)) : t.AddsFolders u := by
  unfold makeFolder? at made
  split at made
  · cases made; exact .refl _
  · split at made
    next free =>
      cases made
      exact .put (Option.isNone_iff_eq_none.1 (Bool.and_eq_true_iff.1 free).2)
    · cases made

private theorem addsFolders_makeAlong (t : FileTree) (place : Place) (path : List String) :
    t.AddsFolders (t.makeAlong place path).1 := by
  induction path generalizing t place with
  | nil => exact .refl _
  | cons name rest ih =>
      unfold makeAlong
      split
      next u next made => exact (addsFolders_of_makeFolder? made).trans (ih u next)
      · exact .refl _

/-- Making folders changes nothing else, also when not all of them can be made. -/
theorem addsFolders_makeFolders (t : FileTree) (path : String) :
    t.AddsFolders (t.makeFolders path).1 := by
  unfold makeFolders
  split
  · exact .refl _
  split
  · exact .refl _
  split
  · exact .refl _
  split
  · exact t.addsFolders_makeAlong _ _
  · exact t.addsFolders_makeAlong _ _

/-! ### Folders that are there -/

/-- No folder is made where some names lead to folders. -/
theorem makeAlong_of_follow? {path : List String} {place last : Place}
    (reached : t.follow? place path = some last) : t.makeAlong place path = (t, true) := by
  unfold follow? at reached
  induction path generalizing place with
  | nil => rfl
  | cons name rest ih =>
      rw [List.foldlM_cons, Option.bind_eq_bind, Option.bind_eq_some_iff] at reached
      obtain ⟨next, entered, further⟩ := reached
      simp only [makeAlong, makeFolder?, entered]
      exact ih further

/-- The names above the last one come first in a path. -/
theorem namesAbove_isPrefix (path : String) : namesAbove path <+: names path := by
  unfold namesAbove
  refine (List.dropLast_prefix _).trans ?_
  have suffix := List.dropWhile_suffix (fun name => decide (name = "" ∨ name = "."))
    (l := (names path).reverse)
  rw [← List.reverse_prefix, List.reverse_reverse] at suffix
  exact suffix

/-- Folders that are there are not made. -/
theorem makeFolders_of_base? {path : String} {place : Place} (found : t.base? path = some place) :
    t.makeFolders path = (t, true) := by
  unfold base? at found
  unfold makeFolders
  split at found
  next blank => rw [if_pos blank]
  next something =>
    obtain ⟨usable, start, started, followed⟩ := folder?_eq_some_iff.1 found
    have readable : isReadable path = true := by
      unfold isUsable at usable
      exact (Bool.and_eq_true_iff.1 (Bool.and_eq_true_iff.1 usable).1).2
    rw [if_neg something, started]
    simp only [readable, Bool.not_true, Bool.false_eq_true, ↓reduceIte]
    split
    · -- The names above the last one lead to a folder too.
      obtain ⟨rest, split⟩ := namesAbove_isPrefix path
      rw [← split, follow?_append, Option.bind_eq_some_iff] at followed
      obtain ⟨above, reached, _⟩ := followed
      rw [makeAlong_of_follow? reached, found]
      rfl
    · exact makeAlong_of_follow? followed

/-! ### What a folder lists -/

/-- The entry of a tree as a folder lists it, if it is right below the folder. -/
def child? (folder : Place) (e : Place × Node) : Option (String × Node) :=
  match e.1.getLast? with
  | some name => if e.1 = folder ++ [name] then some (name, e.2) else none
  | none => none

private theorem child?_eq_some_iff {folder : Place} {e : Place × Node} {name : String}
    {node : Node} :
    child? folder e = some (name, node) ↔ e = (folder ++ [name], node) := by
  obtain ⟨place, there⟩ := e
  unfold child?
  constructor
  · intro found
    simp only at found
    split at found
    · split at found
      next here =>
        obtain ⟨rfl, rfl⟩ := Prod.mk.inj (Option.some.inj found)
        exact congrArg (Prod.mk · there) here
      · cases found
    · cases found
  · intro same
    obtain ⟨rfl, rfl⟩ := Prod.mk.inj same
    simp only [List.getLast?_concat, ↓reduceIte]

/-- A folder lists what is right below it. -/
theorem mem_children_iff {folder : Place} {name : String} {node : Node} :
    (name, node) ∈ t.children folder ↔ t.node? (folder ++ [name]) = some node := by
  have below : folder ++ [name] ≠ [] := by simp
  rw [node?, if_neg below, ← SortedMap.mem_entries_iff]
  change (name, node) ∈ t.nodes.entries.filterMap (child? folder) ↔ _
  rw [List.mem_filterMap]
  constructor
  · rintro ⟨e, entry, found⟩
    exact child?_eq_some_iff.1 found ▸ entry
  · exact fun entry => ⟨_, entry, child?_eq_some_iff.2 rfl⟩

/-- A folder lists different names. -/
theorem children_nodup (t : FileTree) (folder : Place) :
    ((t.children folder).map Prod.fst).Nodup := by
  change ((t.nodes.entries.filterMap (child? folder)).map Prod.fst).Pairwise (· ≠ ·)
  rw [List.pairwise_map, List.pairwise_filterMap]
  refine t.nodes.sorted.imp ?_
  rintro e e' less ⟨name, _⟩ found ⟨other, _⟩ found' same
  obtain rfl : name = other := same
  rw [child?_eq_some_iff.1 found, child?_eq_some_iff.1 found', SortedMap.compare_self] at less
  cases less

/-- A name is listed once, with what is at its place. -/
theorem filter_children {folder : Place} {name : String} {node : Node}
    (found : t.node? (folder ++ [name]) = some node) :
    ((t.children folder).filter fun e => e.1 = name) = [(name, node)] := by
  refine filter_eq_singleton (.of_map _ (t.children_nodup folder)) (mem_children_iff.2 found) ?_
  rintro ⟨other, there⟩ listed
  rw [decide_eq_true_eq]
  constructor
  · rintro rfl
    have same := (mem_children_iff.1 listed).symm.trans found
    exact congrArg (Prod.mk _) (Option.some.inj same)
  · intro same
    exact congrArg Prod.fst same

/-- What is listed where a path leads to has different names. -/
theorem list?_nodup {path : String} {entries : List (String × Node)}
    (listed : t.list? path = some entries) : (entries.map Prod.fst).Nodup := by
  unfold list? at listed
  rw [Option.bind_eq_bind, Option.bind_eq_some_iff] at listed
  obtain ⟨place, _, listed⟩ := listed
  obtain rfl := Option.some.inj listed
  rw [List.map_map]
  exact t.children_nodup place

end FileTree

end ConfigFacts
