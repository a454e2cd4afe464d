import ConfigFacts.FileTree

/-!
# Names of paths

A name that is joined to the path of a folder is the last name of the joined path
(`FileTree.getLast?_names_join`), and the names before it lead to the folder
(`FileTree.parent?_join`). So a file at the joined path is in this folder
(`FileTree.base?_of_filePlace?_join`), and every short proper name can be joined to a usable path
(`FileTree.filePlace?_join`, `FileTree.isUsable_join`).
-/

namespace ConfigFacts

/-- What stands behind a guard is reached when its condition holds. -/
theorem guard_bind_eq_some_iff {α : Type} {p : Prop} [Decidable p] {rest : Unit → Option α}
    {a : α} : (guard p >>= rest) = some a ↔ p ∧ rest () = some a := by
  change (if p then some () else none).bind rest = some a ↔ _
  by_cases holds : p
  · rw [if_pos holds]
    exact (and_iff_right holds).symm
  · rw [if_neg holds, Option.bind_none]
    exact ⟨fun impossible => (Option.some_ne_none a impossible.symm).elim,
      fun both => absurd both.1 holds⟩

namespace FileTree

/-- The folder of the files that are joined to a path. The empty path leads to where the program
runs. -/
def base? (t : FileTree) (path : String) : Option Place :=
  if path = "" then t.origin? "" else t.folder? path

/-! ### Names -/

private theorem names_ne_nil (path : String) : names path ≠ [] := by
  simp [names]

private theorem names_append_slash (a b : String) : names (a ++ "/" ++ b) = names a ++ names b := by
  have letters : (a ++ "/" ++ b).toList = a.toList ++ '/' :: b.toList := by
    rw [String.toList_append, String.toList_append, List.append_assoc]
    rfl
  rw [names, letters, List.splitOn_append_cons_self, List.map_append]
  rfl

/-- A text without slashes is a path of one name. -/
theorem names_of_plain {name : String} (plain : '/' ∉ name.toList) : names name = [name] := by
  rw [names, List.splitOn_eq_singleton plain, List.map_singleton, String.ofList_toList]

/-- The ways to join a name to a path. -/
theorem join_cases (folder name : String) :
    ((name.toList.head? = some '/' ∨ folder = "") ∧ join folder name = name) ∨
      (∃ front, folder = front ++ "/" ∧ join folder name = front ++ "/" ++ name) ∨
      folder ≠ "" ∧ join folder name = folder ++ "/" ++ name := by
  unfold join
  by_cases rooted : name.toList.head? = some '/'
  · exact .inl ⟨.inl rooted, if_pos rooted⟩
  by_cases blank : folder = ""
  · subst blank
    refine .inl ⟨.inr rfl, ?_⟩
    rw [if_neg rooted, if_pos (.inl rfl), String.empty_append]
  by_cases open' : folder.toList.getLast? = some '/'
  · obtain ⟨front, split⟩ := List.getLast?_eq_some_iff.1 open'
    have spelled : folder = String.ofList front ++ "/" := by
      apply String.toList_injective
      rw [String.toList_append, String.toList_ofList]
      exact split
    refine .inr (.inl ⟨String.ofList front, spelled, ?_⟩)
    rw [if_neg rooted, if_pos (.inr open'), ← spelled]
  · refine .inr (.inr ⟨blank, ?_⟩)
    rw [if_neg rooted, if_neg (not_or.2 ⟨blank, open'⟩)]

/-- The last name of a joined path is the last one of the name behind. -/
theorem getLast?_names_join (folder name : String) :
    (names (join folder name)).getLast? = (names name).getLast? := by
  have behind (a : String) : (names (a ++ "/" ++ name)).getLast? = (names name).getLast? := by
    rw [names_append_slash, List.getLast?_append, List.getLast?_eq_some_getLast (names_ne_nil name),
      Option.some_or]
  rcases join_cases folder name with ⟨_, joined⟩ | ⟨front, _, joined⟩ | ⟨_, joined⟩
  · rw [joined]
  · rw [joined, behind]
  · rw [joined, behind]

/-- The last name of a path ends as the path does. -/
theorem getLast?_of_getLast?_names {path name : String} {c : Char}
    (last : (names path).getLast? = some name) (ending : path.toList.getLast? = some c)
    (solid : c ≠ '/') : name.toList.getLast? = some c := by
  by_cases slash : '/' ∈ path.toList
  · -- The last name is what stands behind the last slash.
    obtain ⟨behind, before, split, plain⟩ := List.eq_append_cons_of_mem (List.mem_reverse.2 slash)
    have letters : path.toList = before.reverse ++ '/' :: behind.reverse := by
      rw [← List.reverse_reverse path.toList, split, List.reverse_append, List.reverse_cons,
        List.append_assoc, List.singleton_append]
    have pieces : names path = names (String.ofList before.reverse) ++
        [String.ofList behind.reverse] := by
      unfold names
      rw [letters, List.splitOn_append_cons_self, List.map_append, String.toList_ofList,
        List.splitOn_eq_singleton fun member => plain (List.mem_reverse.1 member),
        List.map_singleton]
    rw [pieces, List.getLast?_concat, Option.some.injEq] at last
    rw [← last, String.toList_ofList]
    rw [letters, List.getLast?_append, List.getLast?_cons] at ending
    cases final : behind.reverse.getLast? with
    | some d =>
        rw [final] at ending
        exact ending
    | none =>
        rw [final] at ending
        exact absurd (Option.some.inj ending).symm solid
  · rw [names_of_plain slash, List.getLast?_singleton, Option.some.injEq] at last
    exact last ▸ ending

/-! ### Where joined names lead -/

/-- What makes a path usable. -/
theorem isUsable_iff {path : String} : isUsable path = true ↔ path ≠ "" ∧
    path.utf8ByteSize < 4096 ∧ (∀ n ∈ names path, n.utf8ByteSize ≤ 255) ∧
      '\x00' ∉ path.toList := by
  simp only [isUsable, isReadable, isShort, ne_eq, decide_not, Bool.and_eq_true,
    decide_eq_true_eq, List.all_eq_true, Bool.not_eq_true', List.contains_eq_mem,
    decide_eq_false_iff_not]
  constructor
  · rintro ⟨⟨something, short, clean⟩, few⟩
    exact ⟨something, short, few, clean⟩
  · rintro ⟨something, short, few, clean⟩
    exact ⟨⟨something, short, clean⟩, few⟩

/-- The start of a usable path is usable if it does not end inside a name. -/
theorem isUsable_of_append {start rest : String} (something : start ≠ "")
    (parts : ∀ n ∈ names start, n ∈ names (start ++ rest) ∨ n = "")
    (usable : isUsable (start ++ rest) = true) : isUsable start = true := by
  obtain ⟨_, short, few, clean⟩ := isUsable_iff.1 usable
  rw [String.utf8ByteSize_append] at short
  rw [String.toList_append] at clean
  refine isUsable_iff.2 ⟨something, by omega, fun n member => ?_,
    fun member => clean (List.mem_append_left _ member)⟩
  rcases parts n member with known | rfl
  · exact few n known
  · decide

variable {t : FileTree}

/-- An empty name leads nowhere else. -/
theorem enter?_blank (place : Place) : t.enter? place "" = some place :=
  if_pos (.inl rfl)

/-- Names can be followed in two parts. -/
theorem follow?_append (place : Place) (first second : List String) :
    t.follow? place (first ++ second) =
      (t.follow? place first).bind fun next => t.follow? next second :=
  List.foldlM_append

private theorem follow?_blank (place : Place) : t.follow? place [""] = some place := by
  change t.enter? place "" >>= pure = some place
  rw [bind_pure, enter?_blank]

/-- What stands behind a path does not change where it starts. -/
theorem origin?_append {a : String} (something : a ≠ "") (b : String) :
    t.origin? (a ++ b) = t.origin? a := by
  have filled : a.toList ≠ [] := fun empty => something (String.toList_injective empty)
  obtain ⟨c, rest, letters⟩ := List.exists_cons_of_ne_nil filled
  unfold origin?
  rw [String.toList_append, letters]
  rfl

/-- A usable path leads to the folder that its names lead to from where it starts. -/
theorem folder?_eq_some_iff {path : String} {place : Place} :
    t.folder? path = some place ↔ isUsable path = true ∧ ∃ start,
      t.origin? path = some start ∧ t.follow? start (names path) = some place := by
  unfold folder?
  rw [guard_bind_eq_some_iff, Option.bind_eq_bind, Option.bind_eq_some_iff]

/-- A path leads to a file when it is usable, ends in a proper name, and leads to a folder before
it. -/
theorem filePlace?_eq_some_iff {path : String} {place : Place} :
    t.filePlace? path = some place ↔ isUsable path = true ∧ ∃ name,
      (names path).getLast? = some name ∧ (name ≠ "" ∧ name ≠ "." ∧ name ≠ "..") ∧ ∃ base,
        t.parent? path = some base ∧ base ++ [name] = place := by
  unfold filePlace?
  rw [guard_bind_eq_some_iff, Option.bind_eq_bind, Option.bind_eq_some_iff]
  refine and_congr_right fun _ => exists_congr fun name => and_congr_right fun _ => ?_
  rw [guard_bind_eq_some_iff, Option.bind_eq_bind, Option.bind_eq_some_iff]
  refine and_congr ?_ (exists_congr fun base => and_congr_right fun _ => ?_)
  · simp only [List.contains_iff_mem, List.mem_cons, List.not_mem_nil, or_false, not_or, ne_eq]
  · simp only [Option.pure_def, Option.some.injEq]

/-- The names of a joined name lead on from where the path leads. -/
theorem parent?_join_of_relative {folder file : String}
    (relative : file.toList.head? ≠ some '/') (usable : isUsable (join folder file) = true) :
    t.parent? (join folder file) =
      (t.base? folder).bind fun base => t.follow? base (names file).dropLast := by
  have below (a : String) :
      (names (a ++ "/" ++ file)).dropLast = names a ++ (names file).dropLast := by
    rw [names_append_slash, List.dropLast_append_of_ne_nil (names_ne_nil file)]
  have through {a : String} (usable : isUsable a = true) : t.folder? a =
      (t.origin? a).bind fun start => t.follow? start (names a) := by
    unfold folder?
    rw [usable]
    rfl
  unfold base? parent?
  rw [Option.bind_eq_bind]
  rcases join_cases folder file with ⟨start, joined⟩ | ⟨front, rfl, joined⟩ | ⟨something, joined⟩
  · have blank : folder = "" := start.resolve_left relative
    rw [joined, if_pos blank, origin?, origin?, if_neg relative]
    rfl
  · have something : front ++ "/" ≠ "" := by simp
    have whole : names (front ++ "/") = names front ++ [""] := by
      have split := names_append_slash front ""
      rwa [String.append_empty] at split
    rw [joined] at usable ⊢
    have usableFront : isUsable (front ++ "/") = true := by
      refine isUsable_of_append something (fun n member => ?_) usable
      rw [whole, List.mem_append, List.mem_singleton] at member
      rw [names_append_slash]
      exact member.imp_left (List.mem_append_left _)
    rw [below, origin?_append something, if_neg something, through usableFront, whole,
      Option.bind_assoc]
    refine congrArg _ (funext fun start => ?_)
    -- The empty name behind the last slash leads nowhere else.
    rw [follow?_append, follow?_append]
    simp only [follow?_blank, Option.bind_fun_some]
  · rw [joined] at usable ⊢
    have usableFolder : isUsable folder = true := by
      rw [String.append_assoc] at usable
      refine isUsable_of_append something (fun n member => .inl ?_) usable
      rw [← String.append_assoc, names_append_slash]
      exact List.mem_append_left _ member
    rw [below, String.append_assoc, origin?_append something, if_neg something,
      through usableFolder, Option.bind_assoc]
    exact congrArg _ (funext fun start => follow?_append ..)

/-- The names before the joined one lead where the path leads. -/
theorem parent?_join {folder file : String} (plain : '/' ∉ file.toList)
    (usable : isUsable (join folder file) = true) :
    t.parent? (join folder file) = t.base? folder := by
  have relative : file.toList.head? ≠ some '/' := fun head => plain (List.mem_of_mem_head? head)
  rw [parent?_join_of_relative relative usable, names_of_plain plain]
  exact Option.bind_fun_some (t.base? folder)

/-- A file that is joined to a path is in the folder that the path leads to. -/
theorem base?_of_filePlace?_join {folder file : String} {place : Place} (plain : '/' ∉ file.toList)
    (found : t.filePlace? (join folder file) = some place) :
    ∃ base, t.base? folder = some base ∧ base ++ [file] = place := by
  obtain ⟨usable, name, last, _, base, reached, rfl⟩ := filePlace?_eq_some_iff.1 found
  rw [getLast?_names_join, names_of_plain plain, List.getLast?_singleton, Option.some.injEq] at last
  subst last
  rw [parent?_join plain usable] at reached
  exact ⟨base, reached, rfl⟩

/-- A proper name can be joined to a path that leads to a folder. -/
theorem filePlace?_join {folder file : String} {base : Place} (plain : '/' ∉ file.toList)
    (proper : file ≠ "" ∧ file ≠ "." ∧ file ≠ "..") (usable : isUsable (join folder file) = true)
    (found : t.base? folder = some base) :
    t.filePlace? (join folder file) = some (base ++ [file]) := by
  have last : (names (join folder file)).getLast? = some file := by
    rw [getLast?_names_join, names_of_plain plain, List.getLast?_singleton]
  refine filePlace?_eq_some_iff.2 ⟨usable, file, last, proper, base, ?_, rfl⟩
  rw [parent?_join plain usable, found]

/-- A short name can be joined to a usable path. -/
theorem isUsable_join {folder file : String} (usable : isUsable folder = true)
    (plain : '/' ∉ file.toList) (clean : '\x00' ∉ file.toList) (short : file.utf8ByteSize ≤ 255)
    (room : folder.utf8ByteSize + 1 + file.utf8ByteSize < 4096) :
    isUsable (join folder file) = true := by
  obtain ⟨something, _, few, cleanFolder⟩ := isUsable_iff.1 usable
  have slash : "/".utf8ByteSize = 1 := by decide
  have behind (a : String) (size : a.utf8ByteSize ≤ folder.utf8ByteSize)
      (parts : ∀ n ∈ names a, n ∈ names folder) (letters : ∀ c ∈ a.toList, c ∈ folder.toList) :
      isUsable (a ++ "/" ++ file) = true := by
    refine isUsable_iff.2 ⟨by simp, ?_, fun n member => ?_, fun null => ?_⟩
    · rw [String.utf8ByteSize_append, String.utf8ByteSize_append]
      omega
    · rw [names_append_slash, names_of_plain plain, List.mem_append, List.mem_singleton] at member
      rcases member with part | rfl
      · exact few n (parts n part)
      · exact short
    · rw [String.toList_append, String.toList_append, List.mem_append, List.mem_append] at null
      obtain (null | null) | null := null
      · exact cleanFolder (letters _ null)
      · exact absurd null (by decide)
      · exact clean null
  rcases join_cases folder file with ⟨start, _⟩ | ⟨front, rfl, joined⟩ | ⟨_, joined⟩
  · rcases start with rooted | blank
    · exact absurd (List.mem_of_mem_head? rooted) plain
    · exact absurd blank something
  · rw [joined]
    apply behind
    · rw [String.utf8ByteSize_append]
      omega
    · intro n member
      have split := names_append_slash front ""
      rw [String.append_empty] at split
      rw [split]
      exact List.mem_append_left _ member
    · intro c member
      rw [String.toList_append]
      exact List.mem_append_left _ member
  · rw [joined]
    exact behind folder (Nat.le_refl _) (fun _ => id) fun _ => id

end FileTree

end ConfigFacts
