import ConfigFacts.Proofs.Program.Exit
import ConfigFacts.Proofs.Relations.Conformance
import ConfigFacts.Proofs.Topology.Facts

/-!
# What a run leaves

A run that completes leaves one file for each kind of facts (`Program.FilesHold`), with the text
that is in the bin of the network, or that of the links of the topology (`Program.get_bins`). Runs
that find the same devices and the same topology leave the same texts (`Program.run_holds_facts`).
-/

namespace ConfigFacts

open ConfigDirectory (Entry Holds ofEntries)

/-- The links of a topology as text: one line for each edge, in their order. -/
def Topology.linkText (topology : Topology) : String :=
  String.join (topology.edges.map fun e =>
    e.node1 ++ "|" ++ e.int1 ++ "|" ++ e.node2 ++ "|" ++ e.int2 ++ "\n")

private theorem Topology.text_facts (topology : Topology) :
    Fact.text .samePhysicalSegment topology.facts = topology.linkText := by
  rw [Fact.text, filter_facts, facts, List.map_map]
  rfl

namespace Program

/-- The text for a kind: what the network has in its bin, and for links those of the topology. -/
def factText (processors : Nat) (o : Options) (entries : List Entry) (topology : Option Topology)
    (k : FactKind) : String :=
  if k = .samePhysicalSegment then topology.elim "" Topology.linkText
  else (Network.extract processors o.threads (ofEntries entries).devices).bins.get k

/-- Some actions have left a file with some text for each kind in a folder. -/
structure FilesHold (actions : List Action) (after : FileTree) (folder : String)
    (text : FactKind → String) : Prop where
  /-- Of everything that was written, this file alone has the name of the kind. -/
  once : ∀ k, actions.filter (fun a => a.fileName? = some k.fileName) =
    [.write (FileTree.join folder k.fileName) (text k)]
  /-- The folder is there, and has this file once. -/
  listed : ∃ base, after.base? folder = some base ∧
    ∀ k, (after.children base).filter (fun e => e.1 = k.fileName) =
      [(k.fileName, .file (some (text k)))]

/-- The links are those of the topology alone, and all other facts are those of the devices. -/
theorem get_bins (processors : Nat) (o : Options) (entries : List Entry)
    (topology : Option Topology) (k : FactKind) :
    ((Network.extract processors o.threads (ofEntries entries).devices).bins.pushAll
      (topology.elim [] Topology.facts)).get k = factText processors o entries topology k := by
  rw [Bins.get_pushAll, factText]
  by_cases link : k = .samePhysicalSegment
  · subst link
    have none : (Network.extract processors o.threads (ofEntries entries).devices).bins.get
        .samePhysicalSegment = "" := by
      rw [Network.extract_bins, Bins.get_ofFacts]
      refine Fact.text_eq_empty fun f member => ?_
      obtain ⟨d, _, _, found⟩ := Network.mem_facts_iff.1 member
      exact Device.kind_ne_link found
    rw [if_pos rfl, none, String.empty_append]
    cases topology with
    | none => exact Fact.text_nil _
    | some topology => exact topology.text_facts
  · have none : Fact.text k (topology.elim [] Topology.facts) = "" := by
      refine Fact.text_eq_empty fun f member => ?_
      cases topology with
      | none => cases member
      | some topology =>
          obtain ⟨e, _, rfl⟩ := List.mem_map.1 member
          exact fun same => link same.symm
    rw [if_neg link, none, String.append_empty]

variable {o o' : Options} {t t' : FileTree} {entries others : List Entry}
  {topology : Option Topology} {args args' : List String}

/-- Neither the workers nor the files without a device have a part in the texts. -/
theorem factText_eq_of_loaded (found : Finds o t entries topology)
    (found' : Finds o' t' others topology)
    (common : ∀ e, (ConfigDirectory.device? e).isSome = true → (e ∈ entries ↔ e ∈ others))
    (processors processors' : Nat) :
    factText processors o entries topology = factText processors' o' others topology := by
  have devices := ConfigDirectory.devices_eq_of_loaded (FileTree.list?_nodup found.listed)
    (FileTree.list?_nodup found'.listed) common
  funext k
  unfold factText
  rw [devices, Network.extract_eq_ofReports, Network.extract_eq_ofReports]

/-- A run that completes leaves the files for all kinds. -/
theorem filesHold_of_completes (valid : Options.ofArguments? args = some o)
    (completes : Completes o t entries topology) (processors : Nat) :
    FilesHold (effects processors args t) (run processors args t).2 o.output
      (factText processors o entries topology) := by
  have once (k : FactKind) :
      (effects processors args t).filter (fun a => a.fileName? = some k.fileName) =
        [.write (FileTree.join o.output k.fileName)
          (factText processors o entries topology k)] := by
    rw [effects_of_completes valid completes, ← actions_ofNetwork processors, Plan.filter_ofNetwork,
      get_bins]
  have stored (k : FactKind) := (leaves_effects processors args t).children_of_written_once
    k.slash_not_mem_fileName (once k)
  refine ⟨once, ?_⟩
  -- All files are in the folder that the path leads to.
  obtain ⟨base, reached, _⟩ := stored .nodeVendor
  refine ⟨base, reached, fun k => ?_⟩
  obtain ⟨base', reached', here⟩ := stored k
  obtain rfl := Option.some.inj (reached.symm.trans reached')
  exact here

/-- **A run leaves the facts of the network.** A run that completes leaves in its folder one file
for each kind of facts. Its text is that in the bin of the network of all devices that were read,
and for links that of the edges of the topology, in their order. Any other run that completes with
the same topology leaves the same texts if both folders with configurations agree on the
configuration files that hold a device, whatever else is in them and whatever else it is asked. -/
theorem run_holds_facts (valid : Options.ofArguments? args = some o)
    (completes : Completes o t entries topology) (processors : Nat) :
    FilesHold (effects processors args t) (run processors args t).2 o.output
        (factText processors o entries topology) ∧
      ∀ (processors' : Nat) (args' : List String) (o' : Options) (t' : FileTree)
        (others : List Entry), Options.ofArguments? args' = some o' →
          Completes o' t' others topology →
          (∀ e device, FileName.extension? e.1 = some "json" → Holds e.2 device →
            (e ∈ entries ↔ e ∈ others)) →
          FilesHold (effects processors' args' t') (run processors' args' t').2 o'.output
            (factText processors o entries topology) := by
  refine ⟨filesHold_of_completes valid completes processors, ?_⟩
  intro processors' args' o' t' others valid' completes' common
  have loaded (e : Entry) (held : (ConfigDirectory.device? e).isSome = true) :
      e ∈ entries ↔ e ∈ others := by
    obtain ⟨device, found⟩ := Option.isSome_iff_exists.1 held
    obtain ⟨configuration, holds⟩ := ConfigDirectory.device?_eq_some_iff.1 found
    exact common e device (ConfigDirectory.isConfiguration_iff.1 configuration) holds
  rw [factText_eq_of_loaded completes.toFinds completes'.toFinds loaded processors processors']
  exact filesHold_of_completes valid' completes' processors'

/-- Two folders with the same configuration, in one of them besides a file that is none, and the
links of a network. The second folder is that of the run. -/
def twiceConfigured : FileTree :=
  (halfConfigured.plant ["links"] (.file (some "r0:e0,r1:e1"))).plant
    ["run", "r0.json"] (.file (some "\x7b\"hostname\":\"r0\",\"vendor\":\"cisco\"\x7d"))

theorem run_holds_facts_twiceConfigured :
    ∃ o o' : Options, ∃ entries others : List Entry, ∃ topology : Option Topology,
      Options.ofArguments? ["-c", "../configs", "--topology", "/links", "-t", "3"] = some o ∧
      Options.ofArguments? ["--strict", "--topology=../links", "-o", "/other", "-c."] = some o' ∧
      Completes o twiceConfigured entries topology ∧ Completes o' twiceConfigured others topology ∧
      factText 2 o entries topology .samePhysicalSegment = "r0|e0|r1|e1\n" ∧
      FilesHold (effects 2 ["-c", "../configs", "--topology", "/links", "-t", "3"] twiceConfigured)
        (run 2 ["-c", "../configs", "--topology", "/links", "-t", "3"] twiceConfigured).2 "facts"
        (factText 2 o entries topology) ∧
      FilesHold
        (effects 1 ["--strict", "--topology=../links", "-o", "/other", "-c."] twiceConfigured)
        (run 1 ["--strict", "--topology=../links", "-o", "/other", "-c."] twiceConfigured).2
        "/other" (factText 2 o entries topology) := by
  have valid : Options.ofArguments? ["-c", "../configs", "--topology", "/links", "-t", "3"] =
      some ⟨"../configs", some "/links", "facts", none, some 3, false⟩ := by decide +kernel
  have valid' : Options.ofArguments? ["--strict", "--topology=../links", "-o", "/other", "-c."] =
      some ⟨".", some "../links", "/other", none, none, true⟩ := by decide +kernel
  have listed : twiceConfigured.list? "../configs" = some
      [("r0.json", .file (some "\x7b\"hostname\":\"r0\",\"vendor\":\"cisco\"\x7d")),
        ("r1.json", .file (some "\x7b\x7d"))] := by decide +kernel
  have listed' : twiceConfigured.list? "." = some
      [("r0.json", .file (some "\x7b\"hostname\":\"r0\",\"vendor\":\"cisco\"\x7d"))] := by
    decide +kernel
  have links (path : String) (leads : path = "/links" ∨ path = "../links") :
      ReadsTopology twiceConfigured (some path) (some ⟨[⟨"r0", "e0", "r1", "e1"⟩]⟩) := by
    have text : twiceConfigured.text? path = some "r0:e0,r1:e1" := by
      rcases leads with rfl | rfl <;> decide +kernel
    exact .parsed text (by decide +kernel)
  have new (path : String) (place : Place)
      (fresh : path = "facts" ∧ place = ["run", "facts"] ∨ path = "/other" ∧ place = ["other"]) :
      twiceConfigured.makeFolders path = (twiceConfigured.plant place .folder, true) ∧
        (twiceConfigured.plant place .folder).base? path = some place ∧
        (twiceConfigured.plant place .folder).children place = [] := by
    rcases fresh with ⟨rfl, rfl⟩ | ⟨rfl, rfl⟩ <;> decide +kernel
  obtain ⟨made, reached, empty⟩ := new "facts" ["run", "facts"] (.inl ⟨rfl, rfl⟩)
  obtain ⟨made', reached', empty'⟩ := new "/other" ["other"] (.inr ⟨rfl, rfl⟩)
  have found : Finds ⟨"../configs", some "/links", "facts", none, some 3, false⟩
      twiceConfigured _ _ := ⟨listed, links _ (.inl rfl)⟩
  have found' : Finds ⟨".", some "../links", "/other", none, none, true⟩ twiceConfigured _ _ :=
    ⟨listed', links _ (.inr rfl)⟩
  have completes := found.completes rfl made reached empty (by decide) (by decide)
  have completes' := found'.completes rfl made' reached' empty' (by decide) (by decide)
  obtain ⟨own, others⟩ := run_holds_facts valid completes 2
  refine ⟨_, _, _, _, _, valid, valid', completes, completes', rfl, own,
    others 1 _ _ _ _ valid' completes' fun e device extension holds => ?_⟩
  -- The folders differ in a file that holds no device.
  have rejected : Json.read? Device "\x7b\x7d" = none := by decide +kernel
  have broken : e ≠ ("r1.json", .file (some "\x7b\x7d")) := by
    rintro rfl
    obtain ⟨text, same, read⟩ := holds
    obtain rfl := Option.some.inj (Node.file.inj same)
    rw [rejected] at read
    cases read
  simp only [List.mem_cons, List.not_mem_nil, or_false, broken]

end Program

end ConfigFacts
