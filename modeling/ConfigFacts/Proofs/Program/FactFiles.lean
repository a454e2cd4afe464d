import ConfigFacts.Proofs.Program.Effects

/-!
# Files of facts

Every kind of facts has a file of its own (`FactKind.fileName_injective`). A plan writes it exactly
once, with the text in its bin (`Plan.filter_ofNetwork`): the dumps have other names. All of these
files can be written into a folder that takes a file of any of their names
(`Plan.ready_factActions`).
-/

namespace ConfigFacts

namespace FactKind

/-- The name of the file for the facts of a kind. -/
def fileName (k : FactKind) : String :=
  k.name ++ ".facts"

private theorem exists_letters (k : FactKind) : ∃ letters :
    List Char, k.name = String.ofList letters ∧
    letters.all (fun c => c.isAlphanum || c = '_') = true := by
  cases k <;> exact ⟨_, rfl, rfl⟩

/-- The names of files hold letters, underscores and points. -/
theorem letter_of_mem_fileName {k : FactKind} {c : Char} (member : c ∈ k.fileName.toList) :
    (c.isAlphanum || c = '_' || c = '.') = true := by
  obtain ⟨letters, spelled, plain⟩ := k.exists_letters
  rw [fileName, spelled, String.toList_append, String.toList_ofList, List.mem_append] at member
  have ending : ".facts".toList.all (fun c => c.isAlphanum || c = '_' || c = '.') = true := by
    decide
  rcases member with letter | behind
  · rw [List.all_eq_true.1 plain c letter, Bool.true_or]
  · exact List.all_eq_true.1 ending c behind

/-- The file of a kind has a name without a slash. -/
theorem slash_not_mem_fileName (k : FactKind) : '/' ∉ k.fileName.toList :=
  fun member => absurd (letter_of_mem_fileName member) (by decide)

private theorem null_not_mem_fileName (k : FactKind) : '\x00' ∉ k.fileName.toList :=
  fun member => absurd (letter_of_mem_fileName member) (by decide)

private theorem getLast?_fileName (k : FactKind) : k.fileName.toList.getLast? = some 's' := by
  have ending : ".facts".toList.getLast? = some 's' := by decide
  rw [fileName, String.toList_append, List.getLast?_append, ending, Option.some_or]

private theorem fileName_proper (k : FactKind) :
    k.fileName ≠ "" ∧ k.fileName ≠ "." ∧ k.fileName ≠ ".." := by
  have other (name : String) (ending : name.toList.getLast? ≠ some 's') : k.fileName ≠ name :=
    fun same => ending (same ▸ k.getLast?_fileName)
  exact ⟨other _ (by decide), other _ (by decide), other _ (by decide)⟩

private theorem utf8ByteSize_fileName (k : FactKind) : k.fileName.utf8ByteSize ≤ 255 := by
  have short : ∀ k ∈ all, k.name.utf8ByteSize ≤ 50 := by decide +kernel
  have ending : ".facts".utf8ByteSize = 6 := by decide
  have name := short k k.mem_all
  rw [fileName, String.utf8ByteSize_append]
  omega

private theorem names_nodup : (all.map name).Nodup := by
  decide +kernel

/-- Different kinds have different files. -/
theorem fileName_injective {k k' : FactKind} (same : k.fileName = k'.fileName) : k = k' := by
  have letters := congrArg String.toList same
  rw [fileName, fileName, String.toList_append, String.toList_append] at letters
  have names : k.name = k'.name := String.toList_injective (List.append_cancel_right letters)
  exact List.inj_on_of_nodup_map names_nodup k.mem_all k'.mem_all names

private theorem byName_nodup : byName.Nodup :=
  (List.mergeSort_perm all _).nodup_iff.2 (.of_map name names_nodup)

private theorem mem_byName (k : FactKind) : k ∈ byName :=
  (List.mergeSort_perm all _).mem_iff.2 k.mem_all

end FactKind

private theorem Action.fileName?_write_join {folder file text : String}
    (plain : '/' ∉ file.toList) :
    (Action.write (FileTree.join folder file) text).fileName? = some file := by
  rw [fileName?, FileTree.getLast?_names_join, FileTree.names_of_plain plain,
    List.getLast?_singleton]

namespace Plan

variable (folder : String) (bins : Bins) (k : FactKind)

/-- The first of the actions on facts makes the folder, and the others write a file for each
kind. -/
theorem factActions_eq : factActions folder bins = .makeFolders folder ::
    FactKind.byName.map fun k => .write (FileTree.join folder k.fileName) (bins.get k) := by
  rw [factActions, Bins.entries, List.map_map]
  rfl

/-- The file of a kind is written once, with the text of the kind. -/
theorem filter_factActions :
    ((factActions folder bins).filter fun a => a.fileName? = some k.fileName) =
      [.write (FileTree.join folder k.fileName) (bins.get k)] := by
  have folders : (Action.makeFolders folder).fileName? ≠ some k.fileName := nofun
  have own (k' : FactKind) : (Action.write (FileTree.join folder k'.fileName)
      (bins.get k')).fileName? = some k.fileName ↔ k' = k := by
    rw [Action.fileName?_write_join k'.slash_not_mem_fileName, Option.some.injEq]
    exact ⟨FactKind.fileName_injective, congrArg _⟩
  have only : FactKind.byName.filter (fun k' => k' = k) = [k] :=
    filter_eq_singleton FactKind.byName_nodup k.mem_byName fun _ _ => decide_eq_true_iff
  rw [factActions_eq, List.filter_cons_of_neg (by simpa using folders), List.filter_map]
  simp only [Function.comp_def, own, only, List.map_singleton]

/-- No dump is written to the file of a kind. -/
theorem fileName?_of_mem_dumpActions {devices : List Device} {topology : Option Topology}
    {a : Action} (planned : a ∈ dumpActions folder devices topology) :
    a.fileName? ≠ some k.fileName := by
  have dump {file text : String} (ending : file.toList.getLast? = some 'n') :
      (Action.write (FileTree.join folder file) text).fileName? ≠ some k.fileName := by
    intro same
    rw [Action.fileName?, FileTree.getLast?_names_join] at same
    have last := FileTree.getLast?_of_getLast?_names same ending (by decide)
    rw [k.getLast?_fileName] at last
    exact absurd last (by decide)
  have json : ".json".toList.getLast? = some 'n' := by decide
  rcases List.mem_cons.1 planned with rfl | written
  · exact nofun
  rcases List.mem_append.1 written with written | written
  · obtain ⟨d, _, rfl⟩ := List.mem_map.1 written
    apply dump
    rw [String.toList_append, List.getLast?_append, json, Option.some_or]
  · obtain ⟨t, _, rfl⟩ := List.mem_map.1 written
    exact dump (by decide)

/-- Whatever else is planned, the file of a kind is written once. -/
theorem filter_ofNetwork (processors : Nat) (o : Options) (directory : ConfigDirectory)
    (topology : Option Topology) :
    ((ofNetwork processors o directory topology).actions.filter
        fun a => a.fileName? = some k.fileName) =
      [.write (FileTree.join o.output k.fileName)
        (((Network.extract processors o.threads directory.devices).bins.pushAll
          (topology.elim [] Topology.facts)).get k)] := by
  have others : (o.json.elim [] fun folder =>
      dumpActions folder directory.devices topology).filter
        (fun a => a.fileName? = some k.fileName) = [] := by
    cases o.json with
    | none => rfl
    | some folder =>
        refine List.filter_eq_nil_iff.2 fun a planned => ?_
        simpa using fileName?_of_mem_dumpActions folder k planned
  unfold ofNetwork
  rw [List.filter_append, others, filter_factActions, List.append_nil]

end Plan

/-- The files of all kinds can be written to a folder in which none of their names is taken by a
folder. -/
theorem Plan.ready_factActions {u : FileTree} {folder : String} {base : Place}
    (found : u.base? folder = some base) (usable : FileTree.isUsable folder = true)
    (short : folder.utf8ByteSize < 2048)
    (free : ∀ k : FactKind, (k.fileName, .folder) ∉ u.children base)
    (bins : Bins) : ∀ a ∈ Plan.factActions folder bins, a.Ready u := by
  rw [Plan.factActions_eq]
  refine List.forall_mem_cons.2 ⟨⟨base, found⟩, fun a planned => ?_⟩
  obtain ⟨k, _, rfl⟩ := List.mem_map.1 planned
  have size := k.utf8ByteSize_fileName
  have joined := FileTree.isUsable_join usable k.slash_not_mem_fileName k.null_not_mem_fileName
    size (by omega)
  refine ⟨base ++ [k.fileName], FileTree.filePlace?_join k.slash_not_mem_fileName
    k.fileName_proper joined found, fun folder => ?_⟩
  exact free k (FileTree.mem_children_iff.2 folder)

end ConfigFacts
