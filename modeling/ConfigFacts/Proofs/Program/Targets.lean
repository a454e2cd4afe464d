import ConfigFacts.Proofs.Program.Dumps

/-!
# Where a run writes

A run makes the folders that it is asked for, and joins every name of a file to one of them
(`Program.asked_effects`). A joined name leads on from its folder, or from the root if it starts
with a slash (`FileTree.LeadsFrom`). The names are fixed but for those of dumps, which are
hostnames. So a run writes right into its folders when no hostname has a slash in it
(`Program.run_writes_to_targets`); otherwise a dump can end up elsewhere
(`Program.writes_not_always_inside`).
-/

namespace ConfigFacts

open ConfigDirectory (Entry ofEntries)

namespace FileTree

/-- Where a name leads that is joined to a path. -/
inductive LeadsFrom (t : FileTree) (folder name : String) : Place → Prop where
  /-- All names but the last lead on from the folder, to that of the file. -/
  | onward {base parent : Place} {file : String} (relative : name.toList.head? ≠ some '/')
      (found : t.base? folder = some base)
      (reached : t.follow? base (names name).dropLast = some parent)
      (last : (names name).getLast? = some file) : LeadsFrom t folder name (parent ++ [file])
  /-- A name that starts with a slash leads on from the root. -/
  | away {parent : Place} {file : String} (rooted : name.toList.head? = some '/')
      (reached : t.follow? [] (names name).dropLast = some parent)
      (last : (names name).getLast? = some file) : LeadsFrom t folder name (parent ++ [file])

/-- A joined path leads where the name leads from the folder. -/
theorem leadsFrom_of_filePlace?_join {t : FileTree} {folder name : String} {place : Place}
    (found : t.filePlace? (join folder name) = some place) : t.LeadsFrom folder name place := by
  obtain ⟨usable, file, last, _, parent, reached, rfl⟩ := filePlace?_eq_some_iff.1 found
  rw [getLast?_names_join] at last
  by_cases rooted : name.toList.head? = some '/'
  · have alone : join folder name = name := if_pos rooted
    rw [alone, parent?, origin?, if_pos rooted, Option.bind_eq_bind, Option.bind_some] at reached
    exact .away rooted reached last
  · rw [parent?_join_of_relative rooted usable, Option.bind_eq_some_iff] at reached
    obtain ⟨base, leads, onward⟩ := reached
    exact .onward rooted leads onward last

end FileTree

namespace Program

/-- The devices that a run reads. -/
def devices (o : Options) (t : FileTree) : List Device :=
  (t.list? o.configs).elim [] fun entries => (ofEntries entries).devices

/-- A folder and the name of a file that a run joins to it. -/
inductive Target (o : Options) (devices : List Device) : String → String → Prop where
  /-- The file for a kind of facts. -/
  | facts (k : FactKind) : Target o devices o.output k.fileName
  /-- The dump of a device. -/
  | device {folder : String} {d : Device} (asked : o.json = some folder) (listed : d ∈ devices) :
      Target o devices folder (d.hostname ++ ".json")
  /-- The dump of the topology. -/
  | topology {folder path : String} (asked : o.json = some folder)
      (given : o.topology = some path) : Target o devices folder "topology.json"

/-- A place is right in one of the folders that a run is asked to write to. -/
def Inside (o : Options) (after : FileTree) (place : Place) : Prop :=
  ∃ folder base file, (folder = o.output ∨ o.json = some folder) ∧
    after.base? folder = some base ∧ place = base ++ [file]

variable {o : Options} {t after : FileTree} {args : List String} {folder name path text : String}

/-- A target lies in a folder that the run is asked for. -/
theorem Target.asked {ds : List Device} (target : Target o ds folder name) :
    folder = o.output ∨ o.json = some folder := by
  cases target with
  | facts k => exact .inl rfl
  | device asked | topology asked => exact .inr asked

/-- The names of targets have no slash if no hostname has. -/
theorem Target.slash_not_mem {ds : List Device} (target : Target o ds folder name)
    (plain : ∀ d ∈ ds, '/' ∉ d.hostname.toList) : '/' ∉ name.toList := by
  cases target with
  | facts k => exact k.slash_not_mem_fileName
  | device asked listed => exact slash_not_mem_json (plain _ listed)
  | topology asked given => exact slash_not_mem_topology

/-- What is carried out is planned. -/
theorem mem_of_mem_carriedOut {actions : List Action} {a : Action}
    (member : a ∈ carriedOut t actions) : a ∈ actions := by
  induction actions generalizing t with
  | nil => exact member
  | cons b rest ih =>
      rw [carriedOut] at member
      split at member
      · rcases List.mem_cons.1 member with rfl | later
        · exact .head _
        · exact .tail _ (ih later)
      · cases member

private theorem ReadsTopology.exists_path {file : Option String} {links : Topology}
    (reads : ReadsTopology t file (some links)) : ∃ path, file = some path := by
  cases reads
  exact ⟨_, rfl⟩

/-- An action makes the folders on a path that a run is asked for, or writes to a target. -/
def Asked (o : Options) (ds : List Device) : Action → Prop
  | .makeFolders path => path = o.output ∨ o.json = some path
  | .write path _ => ∃ folder name, Target o ds folder name ∧ path = FileTree.join folder name

private theorem asked_dumpActions {entries : List Entry} {topology : Option Topology}
    (found : Finds o t entries topology) (asked : o.json = some folder) :
    ∀ a ∈ Plan.dumpActions folder (ofEntries entries).devices topology,
      Asked o (devices o t) a := by
  rw [Plan.dumpActions_eq]
  refine List.forall_mem_cons.2 ⟨.inr asked, List.forall_mem_map.2 fun e listed => ?_⟩
  rcases List.mem_append.1 listed with dump | dump
  · obtain ⟨d, present, rfl⟩ := List.mem_map.1 dump
    have read : d ∈ devices o t := by rwa [devices, found.listed]
    exact ⟨folder, _, .device asked read, rfl⟩
  · obtain ⟨links, present, rfl⟩ := List.mem_map.1 dump
    obtain rfl := Option.mem_toList.1 present
    obtain ⟨path, given⟩ := found.read.exists_path
    exact ⟨folder, _, .topology asked given, rfl⟩

private theorem asked_planned {entries : List Entry} {topology : Option Topology}
    (found : Finds o t entries topology) :
    ∀ a ∈ planned o entries topology, Asked o (devices o t) a := by
  unfold planned Plan.ofNetwork
  refine List.forall_mem_append.2 ⟨?_, ?_⟩
  · rw [Plan.factActions_eq]
    refine List.forall_mem_cons.2 ⟨.inl rfl, List.forall_mem_map.2 fun k _ => ?_⟩
    exact ⟨o.output, _, .facts k, rfl⟩
  · cases asked : o.json with
    | none => exact fun _ none => nomatch none
    | some folder => exact asked_dumpActions found asked

/-- A run carries out nothing that it is not asked for. -/
theorem asked_effects {a : Action} (valid : Options.ofArguments? args = some o) {processors : Nat}
    (member : a ∈ effects processors args t) : Asked o (devices o t) a := by
  rw [effects_eq valid] at member
  by_cases found : ∃ entries topology, Finds o t entries topology
  · obtain ⟨entries, topology, found⟩ := found
    rw [make_of_finds found, actions_ofNetwork] at member
    exact asked_planned found a (mem_of_mem_carriedOut member)
  · rw [make_of_unfound found] at member
    cases member

/-- A path leads from a folder to where the name of a target says, and right into the folder if
there is no slash in the name. -/
def Aims (o : Options) (ds : List Device) (after : FileTree) (path : String) : Prop :=
  ∃ folder name place, Target o ds folder name ∧ path = FileTree.join folder name ∧
    after.filePlace? path = some place ∧ after.LeadsFrom folder name place ∧
      ('/' ∉ name.toList → Inside o after place)

/-- What a run writes is aimed at something that it was asked for. -/
theorem aims_of_write (valid : Options.ofArguments? args = some o) {processors : Nat}
    (member : .write path text ∈ effects processors args t) :
    Aims o (devices o t) (run processors args t).2 path := by
  obtain ⟨folder, name, target, rfl⟩ := asked_effects valid member
  obtain ⟨place, found⟩ := (leaves_effects processors args t).leads _ member
  refine ⟨folder, name, place, target, rfl, found, FileTree.leadsFrom_of_filePlace?_join found,
    fun plain => ?_⟩
  obtain ⟨base, reached, rfl⟩ := FileTree.base?_of_filePlace?_join plain found
  exact ⟨folder, base, name, target.asked, reached, rfl⟩

/-- **A run writes to its targets.** A run makes no folders but those that it is asked for. Each file
that it writes is a target: its path joins a name to one of these folders, and leads on from the
folder as the name says, right into it if there is no slash in the name. In the tree that is left,
every file that was not there before stands where one of these paths leads, with the text that was
written to it. So if no hostname of a device that was read has a slash in it, the run writes right
into its folders only. -/
theorem run_writes_to_targets (valid : Options.ofArguments? args = some o) (processors : Nat)
    (t : FileTree) :
    (∀ path, .makeFolders path ∈ effects processors args t →
      path = o.output ∨ o.json = some path) ∧
    (∀ path text, .write path text ∈ effects processors args t →
      Aims o (devices o t) (run processors args t).2 path) ∧
    (∀ place text, (run processors args t).2.node? place = some (.file text) →
      t.node? place = some (.file text) ∨ ∃ path written,
        .write path written ∈ effects processors args t ∧ text = some written ∧
          (run processors args t).2.filePlace? path = some place) ∧
    ((∀ d ∈ devices o t, '/' ∉ d.hostname.toList) →
      ∀ path text, .write path text ∈ effects processors args t →
        ∃ place, (run processors args t).2.filePlace? path = some place ∧
          Inside o (run processors args t).2 place) := by
  refine ⟨fun path member => asked_effects valid member, fun path text => aims_of_write valid,
    fun place text there => ?_, fun plain path text member => ?_⟩
  · rw [(leaves_effects processors args t).file_iff] at there
    cases last : lastText? (run processors args t).2 place (effects processors args t) with
    | none =>
        rw [last] at there
        exact .inl there
    | some written =>
        rw [last] at there
        obtain ⟨path, member, found⟩ := exists_write_of_lastText? last
        exact .inr ⟨path, written, member, there, found⟩
  · obtain ⟨folder, name, place, target, rfl, found, _, inside⟩ := aims_of_write valid member
    exact ⟨place, found, inside (target.slash_not_mem plain)⟩

/-- A run writes the dump of a device with a plain hostname into its folder. -/
theorem run_writes_to_targets_configured :
    Options.ofArguments? dumpArguments = some dumping ∧
      .write "facts/r0.json" (Device.named "r0" "cisco").dump.indentedText ∈
        effects 1 dumpArguments (configured (nameText "r0")) ∧
      ∃ place, (run 1 dumpArguments (configured (nameText "r0"))).2.filePlace? "facts/r0.json" =
          some place ∧
        Inside dumping (run 1 dumpArguments (configured (nameText "r0"))).2 place := by
  have valid := ofArguments?_dumpArguments
  have read : Json.read? Device (nameText "r0") = some (.named "r0" "cisco") := by decide +kernel
  have listed : Device.named "r0" "cisco" ∈
      (ofEntries [("a.json", .file (some (nameText "r0")))]).devices :=
    devices_configured read ▸ .head _
  have completes := completes_configured read ⟨["run", "facts", "r0.json"], rfl, nofun⟩
  have written := completes.dump_mem_effects valid rfl 1 listed
  obtain ⟨_, _, _, inside⟩ := run_writes_to_targets valid 1 (configured (nameText "r0"))
  refine ⟨valid, written, inside (fun d listed => ?_) _ _ written⟩
  have one : d ∈ [Device.named "r0" "cisco"] := devices_configured read ▸ listed
  rw [List.mem_singleton.1 one]
  decide

/-- A run for dumps can write a file next to the folders that it is asked to write to. -/
theorem writes_not_always_inside :
    ¬ ∀ (processors : Nat) (args : List String) (t : FileTree) (o : Options),
      Options.ofArguments? args = some o →
        ∀ path text, .write path text ∈ effects processors args t →
          ∃ place, (run processors args t).2.filePlace? path = some place ∧
            Inside o (run processors args t).2 place := by
  intro inside
  have valid := ofArguments?_dumpArguments
  have read : Json.read? Device (nameText "../escaped") = some (.named "../escaped" "cisco") := by
    decide +kernel
  have listed : Device.named "../escaped" "cisco" ∈
      (ofEntries [("a.json", .file (some (nameText "../escaped")))]).devices :=
    devices_configured read ▸ .head _
  have completes := completes_configured read ⟨["run", "escaped.json"], rfl, nofun⟩
  have keeps := completes.keepsFolders valid (u := prepared (nameText "../escaped")) rfl 1
  obtain ⟨place, found, folder, base, file, asked, reached, child⟩ :=
    inside 1 _ _ _ valid _ _ (completes.dump_mem_effects valid rfl 1 listed)
  -- Both folders are `facts`, but the dump is next to it.
  obtain rfl : folder = "facts" := asked.elim id fun same => (Option.some.inj same).symm
  have here : (run 1 dumpArguments (configured (nameText "../escaped"))).2.base? "facts" =
      some ["run", "facts"] := keeps.base? rfl
  have there : (run 1 dumpArguments (configured (nameText "../escaped"))).2.filePlace?
      (FileTree.join "facts" ("../escaped" ++ ".json")) = some ["run", "escaped.json"] :=
    keeps.filePlace? rfl
  obtain rfl := Option.some.inj (here.symm.trans reached)
  obtain rfl := Option.some.inj (there.symm.trans found)
  exact absurd (congrArg List.length child) (by simp)

end Program

end ConfigFacts
