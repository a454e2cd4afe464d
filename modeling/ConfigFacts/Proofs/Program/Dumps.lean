import ConfigFacts.Proofs.Program.Exit
import ConfigFacts.Proofs.Program.Writes

/-!
# Dumps

All dumps of a run go to one folder under the names of their devices, and that of the topology comes
last. Each stands where its path leads, unless a later one leads there too (`Program.DumpsStand`). So
a run keeps all dumps whose names are different names of files, which hostnames need not be
(`Program.run_keeps_dumps`): the dump of a device with the name `topology` gives way to that of the
topology (`Program.dumps_not_always_kept`).
-/

namespace ConfigFacts

open ConfigDirectory (Entry ofEntries)

/-- A file with a text is once in the folder that a path leads to. -/
def FileTree.HasFile (t : FileTree) (folder file text : String) : Prop :=
  ∃ base, t.base? folder = some base ∧
    (t.children base).filter (fun e => e.1 = file) = [(file, .file (some text))]

private theorem FileTree.text?_of_node? {t : FileTree} {path : String} {place : Place}
    {text : Option String} (found : t.filePlace? path = some place)
    (there : t.node? place = some (.file text)) : t.text? path = text := by
  unfold text?
  simp only [found, there, Option.bind_eq_bind, Option.bind_some]

/-- The dumps of some devices and perhaps a topology: the names of their files with their texts, in
the order in which they are written. -/
def Plan.dumps (devices : List Device) (topology : Option Topology) : List (String × String) :=
  (devices.map fun d => (d.hostname ++ ".json", d.dump.indentedText))
    ++ topology.toList.map fun t => ("topology.json", t.dump.indentedText)

/-- The action that writes a dump into a folder. -/
def Plan.dumpAction (folder : String) (e : String × String) : Action :=
  .write (FileTree.join folder e.1) e.2

/-- The first of the actions on dumps makes the folder, and the others write one dump each. -/
theorem Plan.dumpActions_eq (folder : String) (devices : List Device) (topology : Option Topology) :
    dumpActions folder devices topology =
      .makeFolders folder :: (dumps devices topology).map (dumpAction folder) := by
  rw [dumpActions, dumps, List.map_append, List.map_map, List.map_map]
  rfl

namespace Program

/-- Each of some dumps stands where its name leads from a folder, unless a later one leads there
too. -/
structure DumpsStand (after : FileTree) (folder : String) (dumps : List (String × String)) :
    Prop where
  /-- All of them lead somewhere. -/
  leads : ∀ e ∈ dumps, ∃ place, after.filePlace? (FileTree.join folder e.1) = some place
  /-- The last one that leads to a place stands there. -/
  last : ∀ earlier e later place, dumps = earlier ++ e :: later →
    after.filePlace? (FileTree.join folder e.1) = some place →
    (∀ e' ∈ later, after.filePlace? (FileTree.join folder e'.1) ≠ some place) →
    after.node? place = some (.file (some e.2))

variable {t after : FileTree} {folder : String} {dumps : List (String × String)}

/-- The dumps that are written last stand, unless a later one leads to the same place. -/
theorem Leaves.dumpsStand {before : List Action}
    (left : Leaves t (before ++ dumps.map (Plan.dumpAction folder)) after) :
    DumpsStand after folder dumps where
  leads e member := left.leads (Plan.dumpAction folder e)
    (List.mem_append_right _ (List.mem_map_of_mem member))
  last := by
    rintro earlier e later place rfl found others
    rw [List.map_append, List.map_cons, ← List.append_assoc] at left
    refine left.node?_of_last_write (if_pos found) fun b member => ?_
    obtain ⟨e', listed, rfl⟩ := List.mem_map.1 member
    exact if_neg (others e' listed)

/-- A dump with a name that no later one has stands under it. -/
theorem DumpsStand.hasFile (stand : DumpsStand after folder dumps)
    {earlier later : List (String × String)} {e : String × String}
    (split : dumps = earlier ++ e :: later) (plain : '/' ∉ e.1.toList)
    (others : ∀ e' ∈ later, '/' ∉ e'.1.toList ∧ e'.1 ≠ e.1) :
    after.HasFile folder e.1 e.2 := by
  obtain ⟨place, found⟩ := stand.leads e (by simp [split])
  obtain ⟨base, reached, rfl⟩ := FileTree.base?_of_filePlace?_join plain found
  refine ⟨base, reached, FileTree.filter_children
    (stand.last earlier e later _ split found fun e' listed same => ?_)⟩
  obtain ⟨plain', different⟩ := others e' listed
  obtain ⟨base', _, here⟩ := FileTree.base?_of_filePlace?_join plain' same
  exact different (List.singleton_inj.1 (List.append_inj' here rfl).2)

/-! ### Names of dumps -/

/-- A hostname without a slash gives a file name without one. -/
theorem slash_not_mem_json {hostname : String} (plain : '/' ∉ hostname.toList) :
    '/' ∉ (hostname ++ ".json").toList := by
  rw [String.toList_append, List.mem_append, not_or]
  exact ⟨plain, by decide⟩

/-- Different hostnames give different file names. -/
theorem json_inj {a b : String} (same : a ++ ".json" = b ++ ".json") : a = b := by
  have letters := congrArg String.toList same
  rw [String.toList_append, String.toList_append] at letters
  exact String.toList_injective (List.append_cancel_right letters)

/-- The file name of the topology has no slash. -/
theorem slash_not_mem_topology : '/' ∉ "topology.json".toList := by
  decide

/-- The dump of the topology is the last one. -/
theorem DumpsStand.topology {devices : List Device} {links : Topology}
    (stand : DumpsStand after folder (Plan.dumps devices (some links))) :
    after.HasFile folder "topology.json" links.dump.indentedText :=
  stand.hasFile (e := ("topology.json", links.dump.indentedText)) rfl slash_not_mem_topology
    fun _ none => nomatch none

/-- Devices with different names that are names of files, and not that of the topology, keep their
dumps. -/
theorem DumpsStand.device {devices : List Device} {links : Option Topology}
    (stand : DumpsStand after folder (Plan.dumps devices links))
    (distinct : (devices.map Device.hostname).Nodup)
    (plain : ∀ d ∈ devices, '/' ∉ d.hostname.toList)
    (free : links.isSome = true → ∀ d ∈ devices, d.hostname ≠ "topology") :
    ∀ d ∈ devices, after.HasFile folder (d.hostname ++ ".json") d.dump.indentedText := by
  intro d listed
  obtain ⟨before, behind, rfl⟩ := List.append_of_mem listed
  have split : Plan.dumps (before ++ d :: behind) links =
      before.map (fun d => (d.hostname ++ ".json", d.dump.indentedText)) ++
        (d.hostname ++ ".json", d.dump.indentedText) :: Plan.dumps behind links := by
    rw [Plan.dumps, Plan.dumps, List.map_append, List.map_cons, List.append_assoc, List.cons_append]
  refine stand.hasFile split (slash_not_mem_json (plain d listed)) fun e' later => ?_
  rcases List.mem_append.1 later with dump | dump
  · obtain ⟨other, present, rfl⟩ := List.mem_map.1 dump
    have among := List.mem_append_right before (List.mem_cons_of_mem d present)
    refine ⟨slash_not_mem_json (plain other among), fun same => ?_⟩
    rw [List.map_append, List.map_cons] at distinct
    have apart := (List.nodup_cons.1 (List.nodup_append.1 distinct).2.1).1
    exact apart (List.mem_map.2 ⟨other, present, json_inj same⟩)
  · obtain ⟨given, present, rfl⟩ := List.mem_map.1 dump
    have asked : links.isSome = true :=
      Option.isSome_iff_exists.2 ⟨given, Option.mem_toList.1 present⟩
    refine ⟨slash_not_mem_topology, fun same => free asked d listed (json_inj ?_)⟩
    exact same.symm

/-! ### Runs with dumps -/

variable {o : Options} {args : List String} {entries : List Entry} {topology : Option Topology}

/-- The dumps are what a run writes last. -/
theorem planned_of_json (asked : o.json = some folder) (entries : List Entry)
    (topology : Option Topology) : ∃ before,
    planned o entries topology =
      before ++ (Plan.dumps (ofEntries entries).devices topology).map (Plan.dumpAction folder) := by
  unfold planned Plan.ofNetwork
  dsimp only
  rw [asked, Option.elim_some, Plan.dumpActions_eq, List.append_cons]
  exact ⟨_, rfl⟩

/-- A run that completes ends with its dumps, and they stand. -/
theorem Completes.dumpsStand (completes : Completes o t entries topology)
    (valid : Options.ofArguments? args = some o) (asked : o.json = some folder)
    (processors : Nat) :
    (∃ before, effects processors args t = before ++
      (Plan.dumps (ofEntries entries).devices topology).map (Plan.dumpAction folder)) ∧
    DumpsStand (run processors args t).2 folder
      (Plan.dumps (ofEntries entries).devices topology) := by
  obtain ⟨before, plan⟩ := planned_of_json asked entries topology
  have effects := (effects_of_completes valid completes processors).trans plan
  have left := leaves_effects processors args t
  rw [effects] at left
  exact ⟨⟨before, effects⟩, left.dumpsStand⟩

/-- A run that completes writes the dump of each device that was loaded. -/
theorem Completes.dump_mem_effects (completes : Completes o t entries topology)
    (valid : Options.ofArguments? args = some o) (asked : o.json = some folder)
    (processors : Nat) {d : Device} (listed : d ∈ (ofEntries entries).devices) :
    .write (FileTree.join folder (d.hostname ++ ".json")) d.dump.indentedText ∈
      effects processors args t := by
  obtain ⟨⟨before, effects⟩, _⟩ := completes.dumpsStand valid asked processors
  rw [effects]
  have dump : (d.hostname ++ ".json", d.dump.indentedText) ∈
      Plan.dumps (ofEntries entries).devices topology :=
    List.mem_append_left _ (List.mem_map.2 ⟨d, listed, rfl⟩)
  exact List.mem_append_right _ (List.mem_map.2 ⟨_, dump, rfl⟩)

/-- **Dumps that are not overwritten stand.** A run for dumps that succeeds ends with writing the
dump of each device that was read, whether or not the device has facts, and then that of its
topology. Each dump stands where its path leads, unless a later one leads there too. So the dump of
the topology always stands. If the hostnames are different names of files, and none of them is
`topology` when there is a topology, then those of all devices do. -/
theorem run_keeps_dumps (valid : Options.ofArguments? args = some o) (asked : o.json = some folder)
    (processors : Nat) (succeeds : (run processors args t).1 = 0) :
    ∃ (entries : List Entry) (topology : Option Topology), Finds o t entries topology ∧
      (∃ before, effects processors args t = before ++
        (Plan.dumps (ofEntries entries).devices topology).map (Plan.dumpAction folder)) ∧
      DumpsStand (run processors args t).2 folder
        (Plan.dumps (ofEntries entries).devices topology) ∧
      (∀ links, topology = some links →
        (run processors args t).2.HasFile folder "topology.json" links.dump.indentedText) ∧
      (((ofEntries entries).devices.map Device.hostname).Nodup →
        (∀ d ∈ (ofEntries entries).devices, '/' ∉ d.hostname.toList) →
        (topology.isSome = true → ∀ d ∈ (ofEntries entries).devices, d.hostname ≠ "topology") →
        ∀ d ∈ (ofEntries entries).devices,
          (run processors args t).2.HasFile folder (d.hostname ++ ".json")
            d.dump.indentedText) := by
  obtain ⟨entries, topology, completes, _⟩ := (run_succeeds_iff valid processors).1 succeeds
  obtain ⟨last, stand⟩ := completes.dumpsStand valid asked processors
  refine ⟨entries, topology, completes.toFinds, last, stand, ?_, stand.device⟩
  rintro links rfl
  exact stand.topology

/-- A run finds one thing only. -/
theorem Finds.unique {entries' : List Entry} {topology' : Option Topology}
    (found : Finds o t entries topology) (other : Finds o t entries' topology') :
    entries = entries' ∧ topology = topology' := by
  have read := topology?_eq_some_iff.2 found.read
  rw [topology?_eq_some_iff.2 other.read] at read
  exact ⟨Option.some.inj (found.listed.symm.trans other.listed), (Option.some.inj read).symm⟩

/-- The folders after making the first one stay. -/
theorem Completes.keepsFolders {u : FileTree} (completes : Completes o t entries topology)
    (valid : Options.ofArguments? args = some o) (made : t.makeFolders o.output = (u, true))
    (processors : Nat) : u.KeepsFolders (run processors args t).2 := by
  obtain ⟨v, done, grown⟩ := leaves_effects processors args t
  rw [effects_of_completes valid completes, planned, Plan.ofNetwork] at done
  dsimp only at done
  rw [Plan.factActions_eq, List.cons_append, perform?_cons, Action.perform?_makeFolders.2 made,
    Option.bind_some] at done
  exact (keepsFolders_of_perform? done).trans grown.keepsFolders

/-! ### A run on one configuration -/

/-- A folder with one configuration and the links of a network, next to each other at the root, and
the folder of the run. -/
def configured (text : String) : FileTree :=
  { ((FileTree.empty.plant ["run"] .folder).plant ["configs", "a.json"] (.file (some text))).plant
      ["links"] (.file (some "r0:e0,r1:e1")) with current := ["run"] }

/-- The tree with the folder for the facts of the run. -/
def prepared (text : String) : FileTree :=
  (configured text).plant ["run", "facts"] .folder

/-- The arguments that ask for facts and dumps in the same folder. -/
def dumpArguments : List String :=
  ["-c", "../configs", "--topology", "/links", "--json", "facts"]

/-- What these arguments ask for. -/
def dumping : Options :=
  ⟨"../configs", some "/links", "facts", some "facts", none, false⟩

/-- The arguments of a run with dumps are read as its options. -/
theorem ofArguments?_dumpArguments : Options.ofArguments? dumpArguments = some dumping := by
  decide +kernel

/-- A folder with one configuration holds one device. -/
theorem devices_configured {text : String} {d : Device} (read : Json.read? Device text = some d) :
    (ofEntries [("a.json", .file (some text))]).devices = [d] := by
  have extension : FileName.extension? "a.json" = some "json" := by decide
  have device : ConfigDirectory.device? ("a.json", .file (some text)) = some d :=
    ConfigDirectory.device?_eq_some_iff.2
      ⟨ConfigDirectory.isConfiguration_iff.2 extension, text, rfl, read⟩
  rw [ConfigDirectory.ofEntries_eq, ConfigDirectory.byName, List.mergeSort_singleton,
    List.filterMap_cons_some device, List.filterMap_nil]

/-- A run on one configuration completes if there is a place for the dump of its device. -/
theorem completes_configured {text : String} {d : Device} (read : Json.read? Device text = some d)
    (accepted : (prepared text).Accepts (FileTree.join "facts" (d.hostname ++ ".json"))) :
    Completes dumping (configured text) [("a.json", .file (some text))]
      (some ⟨[⟨"r0", "e0", "r1", "e1"⟩]⟩) := by
  have links : ReadsTopology (configured text) (some "/links")
      (some ⟨[⟨"r0", "e0", "r1", "e1"⟩]⟩) :=
    .parsed (show _ = some "r0:e0,r1:e1" from rfl) (by decide +kernel)
  have finds : Finds dumping (configured text) [("a.json", .file (some text))] _ := ⟨rfl, links⟩
  have made : (configured text).makeFolders "facts" = (prepared text, true) := rfl
  have reached : (prepared text).base? "facts" = some ["run", "facts"] := rfl
  refine finds.completes_of_ready made reached rfl (by decide) (by decide) ?_
  rintro folder asked a planned
  obtain rfl := Option.some.inj asked
  rw [devices_configured read, Plan.dumpActions_eq] at planned
  rcases List.mem_cons.1 planned with rfl | planned
  · exact ⟨_, reached⟩
  obtain ⟨e, listed, rfl⟩ := List.mem_map.1 planned
  rcases List.mem_cons.1 listed with rfl | listed
  · exact accepted
  · obtain rfl := List.mem_singleton.1 listed
    exact ⟨["run", "facts", "topology.json"], rfl, nofun⟩

/-- The configuration of a device without anything but a hostname and a vendor. -/
def nameText (hostname : String) : String :=
  "\x7b\"hostname\":\"" ++ hostname ++ "\",\"vendor\":\"cisco\"\x7d"

/-- A run with a device and a topology keeps the dumps of both. -/
theorem run_keeps_dumps_configured :
    Options.ofArguments? dumpArguments = some dumping ∧ dumping.json = some "facts" ∧
      (run 1 dumpArguments (configured (nameText "r0"))).1 = 0 ∧
      (run 1 dumpArguments (configured (nameText "r0"))).2.HasFile "facts" "r0.json"
        (Device.named "r0" "cisco").dump.indentedText ∧
      (run 1 dumpArguments (configured (nameText "r0"))).2.HasFile "facts" "topology.json"
        (Topology.dump ⟨[⟨"r0", "e0", "r1", "e1"⟩]⟩).indentedText := by
  have read : Json.read? Device (nameText "r0") = some (.named "r0" "cisco") := by decide +kernel
  have devices := devices_configured read
  have completes := completes_configured read ⟨["run", "facts", "r0.json"], rfl, nofun⟩
  have valid := ofArguments?_dumpArguments
  have succeeds : (run 1 dumpArguments (configured (nameText "r0"))).1 = 0 :=
    (run_succeeds_iff valid 1).2 ⟨_, _, completes, nofun⟩
  obtain ⟨entries, topology, found, _, _, links, kept⟩ := run_keeps_dumps valid rfl 1 succeeds
  obtain ⟨rfl, rfl⟩ := found.unique completes.toFinds
  rw [devices] at kept
  refine ⟨valid, rfl, succeeds, ?_, links _ rfl⟩
  exact kept (by decide) (by decide) (by decide) _ (.head _)

/-- A run for dumps that succeeds can overwrite the dump of a device, although all hostnames are
different. -/
theorem dumps_not_always_kept :
    ¬ ∀ (processors : Nat) (args : List String) (t : FileTree) (o : Options) (folder : String)
      (entries : List Entry) (topology : Option Topology),
        Options.ofArguments? args = some o → o.json = some folder →
        (run processors args t).1 = 0 → Finds o t entries topology →
        ((ofEntries entries).devices.map Device.hostname).Nodup →
        ∀ d ∈ (ofEntries entries).devices,
          (run processors args t).2.text? (FileTree.join folder (d.hostname ++ ".json")) =
            some d.dump.indentedText := by
  intro kept
  have read : Json.read? Device (nameText "topology") = some (.named "topology" "cisco") := by
    decide +kernel
  have devices := devices_configured read
  have completes := completes_configured read ⟨["run", "facts", "topology.json"], rfl, nofun⟩
  have valid := ofArguments?_dumpArguments
  have keeps := completes.keepsFolders valid (u := prepared (nameText "topology")) rfl 1
  have succeeds : (run 1 dumpArguments (configured (nameText "topology"))).1 = 0 :=
    (run_succeeds_iff valid 1).2 ⟨_, _, completes, nofun⟩
  have own := kept 1 dumpArguments _ dumping "facts" _ _ valid rfl succeeds completes.toFinds
    (devices ▸ by decide) (.named "topology" "cisco") (devices ▸ .head _)
  -- The dump of the topology has been written last, to the place of that of the device.
  obtain ⟨_, stand⟩ := completes.dumpsStand valid rfl 1
  rw [devices] at stand
  have place : (run 1 dumpArguments (configured (nameText "topology"))).2.filePlace?
      (FileTree.join "facts" "topology.json") = some ["run", "facts", "topology.json"] :=
    keeps.filePlace? rfl
  have there := stand.last [_] _ [] ["run", "facts", "topology.json"] rfl place
    (fun _ none => nomatch none)
  have different := (FileTree.text?_of_node? place there).symm.trans own
  exact absurd different (by decide +kernel)

end Program

end ConfigFacts
