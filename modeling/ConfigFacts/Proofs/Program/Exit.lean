import ConfigFacts.Proofs.Directory.Loading
import ConfigFacts.Proofs.Network.Facts
import ConfigFacts.Proofs.Program.FactFiles

/-!
# How runs end

A run that does not find its configurations or its topology stops before it writes
(`Program.run_of_unfound`). Any other run carries out the same actions whatever its workers and
whether it is strict (`Program.actions_make`). It succeeds when all of them do and, if it is strict,
no file and no device failed (`Program.run_succeeds_iff`).
-/

namespace ConfigFacts

namespace Options

private theorem arguments?_cons_strict {args : List String} (something : args ≠ []) :
    arguments? ("--strict" :: args) = (arguments? args).map (Argument.strict :: ·) := by
  obtain ⟨b, rest, rfl⟩ := List.exists_cons_of_ne_nil something
  have meaning : argument? "--strict" = some .strict := by decide
  rw [arguments?, meaning]
  cases arguments? (b :: rest) <;> rfl

/-- Any run can be made strict. -/
theorem ofArguments?_cons_strict {args : List String} {o : Options}
    (valid : ofArguments? args = some { o with strict := false }) :
    ofArguments? ("--strict" :: args) = some { o with strict := true } := by
  have something : args ≠ [] := by
    rintro rfl
    cases valid
  unfold ofArguments? at valid ⊢
  rw [Option.bind_eq_bind, Option.bind_eq_some_iff] at valid
  obtain ⟨arguments, read, valid⟩ := valid
  obtain ⟨_, valid⟩ := guard_bind_eq_some_iff.1 valid
  simp only [Option.bind_eq_bind, Option.bind_eq_some_iff, Option.pure_def, Option.some.injEq,
    Options.mk.injEq, Bool.not_eq_false', List.isEmpty_iff] at valid
  obtain ⟨threads, givenThreads, configs, givenConfigs, path, isGiven, topology, givenTopology,
    output, givenOutput, json, givenJson, number, isNumber, same⟩ := valid
  obtain ⟨rfl, rfl, sameOutput, rfl, rfl, lenient⟩ := same
  have once : (Argument.strict :: arguments).filter (· = .strict) = [.strict] := by
    simp only [List.filter_cons, decide_true, ↓reduceIte, lenient]
  rw [arguments?_cons_strict something, read, Option.map_some, Option.bind_eq_bind,
    Option.bind_some]
  refine guard_bind_eq_some_iff.2 ⟨?_, ?_⟩
  · rw [once]
    exact Nat.le_refl 1
  -- The other settings have the values that they had.
  simp only [Option.bind_eq_bind, Option.bind_eq_some_iff, Option.pure_def, Option.some.injEq,
    Options.mk.injEq]
  refine ⟨threads, givenThreads, configs, givenConfigs, o.configs, isGiven, o.topology,
    givenTopology, output, givenOutput, o.json, givenJson, o.threads, isNumber, rfl, rfl,
    sameOutput, rfl, rfl, ?_⟩
  rw [once]
  rfl

end Options

open ConfigDirectory (Entry Holds ofEntries)

namespace Program

/-- What a run reads as its topology. -/
inductive ReadsTopology (t : FileTree) : Option String → Option Topology → Prop where
  /-- No file is given. -/
  | unasked : ReadsTopology t none none
  /-- The given file holds an edge list. -/
  | parsed {path text : String} {topology : Topology} (found : t.text? path = some text)
      (edges : Topology.ofText? text = .ok topology) : ReadsTopology t (some path) (some topology)

/-- What a run finds before it writes: the entries of the folder with the configurations, and a
topology if a file for it is given. -/
structure Finds (o : Options) (t : FileTree) (entries : List Entry) (topology : Option Topology) :
    Prop where
  /-- The folder can be listed. -/
  listed : t.list? o.configs = some entries
  /-- The file holds the topology. -/
  read : ReadsTopology t o.topology topology

/-- The actions of a run that finds some configurations and perhaps a topology. -/
def planned (o : Options) (entries : List Entry) (topology : Option Topology) : List Action :=
  (Plan.ofNetwork 1 o (ofEntries entries) topology).actions

/-- A run finds what it needs, and everything it writes is written. -/
structure Completes (o : Options) (t : FileTree) (entries : List Entry)
    (topology : Option Topology) : Prop extends Finds o t entries topology where
  /-- Every action succeeds. -/
  written : ∃ after, perform? t (planned o entries topology) = some after

/-- Neither a configuration file nor a device fails. -/
structure Flawless (entries : List Entry) : Prop where
  /-- Every configuration file holds a device. -/
  loaded : ∀ e ∈ entries, FileName.extension? e.1 = some "json" → ∃ device, Holds e.2 device
  /-- Every device gets bins. -/
  extracted : ∀ d ∈ (ofEntries entries).devices, ∃ bins,
    (d.writeAlone (Network.communities (ofEntries entries).devices)).1 = .ok bins

variable {o : Options} {t : FileTree} {entries : List Entry} {topology : Option Topology}

/-! ### What is planned -/

/-- The topology of a run is what it reads as its topology. -/
theorem topology?_eq_some_iff :
    Plan.topology? o (o.topology.bind t.text?) = some topology ↔
      ReadsTopology t o.topology topology := by
  unfold Plan.topology?
  cases o.topology with
  | none =>
      constructor
      · intro found
        obtain rfl := Option.some.inj found
        exact .unasked
      · rintro ⟨⟩
        rfl
  | some path =>
      simp only [Option.bind_some, Option.bind_eq_bind, Option.bind_eq_some_iff]
      constructor
      · rintro ⟨text, found, parsed⟩
        split at parsed
        next edges =>
          obtain rfl := Option.some.inj parsed
          exact .parsed found edges
        · cases parsed
      · rintro (_ | ⟨found, edges⟩)
        exact ⟨_, found, by rw [edges]; rfl⟩

/-- A run that finds what it needs plans for what it found. -/
theorem make_of_finds (found : Finds o t entries topology) (processors : Nat) :
    Plan.make processors o (findings o t) =
      .ofNetwork processors o (ofEntries entries) topology := by
  unfold Plan.make findings
  simp only [found.listed, topology?_eq_some_iff.2 found.read]

/-- A run that does not find what it needs plans nothing. -/
theorem make_of_unfound (unfound : ¬∃ entries topology, Finds o t entries topology)
    (processors : Nat) : Plan.make processors o (findings o t) = .abort := by
  unfold Plan.make findings
  simp only
  split
  next entries topology listed read =>
    exact absurd ⟨entries, topology, listed, topology?_eq_some_iff.1 read⟩ unfound
  · rfl

/-- The workers have no part in what is planned. -/
theorem actions_ofNetwork (processors : Nat) :
    (Plan.ofNetwork processors o (ofEntries entries) topology).actions =
      planned o entries topology := by
  unfold planned Plan.ofNetwork
  simp only [Network.extract_eq_ofReports]

/-- What is planned does not depend on the workers, nor on whether the run is strict. -/
theorem actions_make (o : Options) (t : FileTree) (processors processors' : Nat) (strict : Bool) :
    (Plan.make processors { o with strict } (findings { o with strict } t)).actions =
      (Plan.make processors' o (findings o t)).actions := by
  by_cases found : ∃ entries topology, Finds o t entries topology
  · obtain ⟨entries, topology, found⟩ := found
    have same : Finds { o with strict } t entries topology := ⟨found.listed, found.read⟩
    rw [make_of_finds found, make_of_finds same, actions_ofNetwork, actions_ofNetwork]
    rfl
  · have same : ¬∃ entries topology, Finds { o with strict } t entries topology := by
      rintro ⟨entries, topology, listed, read⟩
      exact found ⟨entries, topology, listed, read⟩
    rw [make_of_unfound found, make_of_unfound same]

/-- A run that finds what it needs completes if after making its folder it can write all files. -/
theorem Finds.completes_of_ready {u : FileTree} {base : Place} (found : Finds o t entries topology)
    (made : t.makeFolders o.output = (u, true)) (reached : u.base? o.output = some base)
    (fresh : u.children base = []) (usable : FileTree.isUsable o.output = true)
    (short : o.output.utf8ByteSize < 2048)
    (dumps : ∀ folder, o.json = some folder →
      ∀ a ∈ Plan.dumpActions folder (ofEntries entries).devices topology, a.Ready u) :
    Completes o t entries topology := by
  refine ⟨found, ?_⟩
  have facts (bins : Bins) : ∀ a ∈ Plan.factActions o.output bins, a.Ready u :=
    Plan.ready_factActions reached usable short (fun k => fresh ▸ List.not_mem_nil) bins
  unfold planned Plan.ofNetwork
  dsimp only
  -- Behind the first action, no action makes a new folder.
  rw [Plan.factActions_eq, List.cons_append, perform?_cons, Action.perform?_makeFolders.2 made,
    Option.bind_some]
  refine perform?_of_ready (List.forall_mem_append.2 ⟨?_, ?_⟩)
  · have all := facts
    simp only [Plan.factActions_eq, List.forall_mem_cons] at all
    exact (all _).2
  · cases asked : o.json with
    | none => exact fun _ none => (nomatch none)
    | some folder => exact dumps folder asked

/-- A run that makes its folder and has none for dumps completes when it finds what it needs. -/
theorem Finds.completes {u : FileTree} {base : Place} (found : Finds o t entries topology)
    (silent : o.json = none) (made : t.makeFolders o.output = (u, true))
    (reached : u.base? o.output = some base) (fresh : u.children base = [])
    (usable : FileTree.isUsable o.output = true) (short : o.output.utf8ByteSize < 2048) :
    Completes o t entries topology := by
  refine found.completes_of_ready made reached fresh usable short fun folder asked => ?_
  rw [silent] at asked
  cases asked

/-! ### When nothing failed -/

/-- Nothing failed when the folder has no failures and the network is complete. -/
theorem flawless_iff (distinct : (entries.map Prod.fst).Nodup) (processors : Nat)
    (requested : Option Nat) : Flawless entries ↔
      ((ofEntries entries).failures.entries.isEmpty &&
        (Network.extract processors requested (ofEntries entries).devices).isComplete) = true := by
  rw [Bool.and_eq_true, ConfigDirectory.isEmpty_failures_iff distinct,
    Network.isComplete_iff_writeAlone]
  constructor
  · exact fun flawless => ⟨flawless.loaded, flawless.extracted⟩
  · exact fun ⟨loaded, extracted⟩ => ⟨loaded, extracted⟩

/-- A plan ends with success unless the run is strict and something failed. -/
theorem exitCode_ofNetwork_iff (distinct : (entries.map Prod.fst).Nodup) (processors : Nat)
    (topology : Option Topology) :
    (Plan.ofNetwork processors o (ofEntries entries) topology).exitCode = 0 ↔
      (o.strict = true → Flawless entries) := by
  have exit (strict complete : Bool) :
      (if strict && !complete then Plan.failure else Plan.success) = 0 ↔
        (strict = true → complete = true) := by
    cases strict <;> cases complete <;> decide
  rw [flawless_iff distinct processors o.threads]
  exact exit _ _

/-! ### Runs -/

variable {args : List String}

/-- A run with valid arguments performs its plan, and ends with the exit code of the plan or, if an
action fails, with that of a failure. -/
theorem run_eq (valid : Options.ofArguments? args = some o) (processors : Nat) :
    run processors args t =
      (if (performAll t (Plan.make processors o (findings o t)).actions).2 then
          (Plan.make processors o (findings o t)).exitCode else Plan.failure,
        (performAll t (Plan.make processors o (findings o t)).actions).1) := by
  unfold run
  rw [valid]

/-- The effects of a run with valid arguments are those actions of its plan that are carried out. -/
theorem effects_eq (valid : Options.ofArguments? args = some o) (processors : Nat) :
    effects processors args t = carriedOut t (Plan.make processors o (findings o t)).actions := by
  unfold effects
  rw [valid]

/-- A run that completes carries out all that it plans. -/
theorem effects_of_completes (valid : Options.ofArguments? args = some o)
    (completes : Completes o t entries topology) (processors : Nat) :
    effects processors args t = planned o entries topology := by
  obtain ⟨after, written⟩ := completes.written
  rw [effects_eq valid, make_of_finds completes.toFinds, actions_ofNetwork,
    carriedOut_of_perform? written]

/-- A run that does not find what it needs writes nothing and fails. -/
theorem run_of_unfound (valid : Options.ofArguments? args = some o)
    (unfound : ¬∃ entries topology, Finds o t entries topology) (processors : Nat) :
    effects processors args t = [] ∧ run processors args t = (Plan.failure, t) := by
  rw [effects_eq valid, run_eq valid, make_of_unfound unfound]
  exact ⟨rfl, rfl⟩

/-- A run succeeds when it completes and, if it is strict, nothing failed. -/
theorem run_succeeds_iff (valid : Options.ofArguments? args = some o) (processors : Nat) :
    (run processors args t).1 = 0 ↔ ∃ entries topology, Completes o t entries topology ∧
      (o.strict = true → Flawless entries) := by
  have ends {entries : List Entry} {topology : Option Topology}
      (found : Finds o t entries topology) : (run processors args t).1 = 0 ↔
        (∃ after, perform? t (planned o entries topology) = some after) ∧
          (o.strict = true → Flawless entries) := by
    rw [run_eq valid, make_of_finds found, performAll_snd, actions_ofNetwork,
      ← exitCode_ofNetwork_iff (FileTree.list?_nodup found.listed) processors topology,
      ← Option.isSome_iff_exists]
    cases (perform? t (planned o entries topology)).isSome <;> simp [Plan.failure]
  constructor
  · intro succeeds
    by_cases found : ∃ entries topology, Finds o t entries topology
    · obtain ⟨entries, topology, found⟩ := found
      obtain ⟨written, flawless⟩ := (ends found).1 succeeds
      exact ⟨entries, topology, ⟨found, written⟩, flawless⟩
    · rw [(run_of_unfound valid found processors).2] at succeeds
      cases succeeds
  · rintro ⟨entries, topology, completes, flawless⟩
    exact (ends completes.toFinds).2 ⟨completes.written, flawless⟩

/-- What a run is asked to be does not change what it needs. -/
theorem completes_iff (strict : Bool) :
    Completes { o with strict } t entries topology ↔ Completes o t entries topology :=
  ⟨fun ⟨⟨listed, read⟩, written⟩ => ⟨⟨listed, read⟩, written⟩,
    fun ⟨⟨listed, read⟩, written⟩ => ⟨⟨listed, read⟩, written⟩⟩

/-- **Strictness only shows in the exit code.** Every run can be made strict. Two runs that are asked
for the same, one of them strictly, carry out the same actions and leave the same tree. The other
one succeeds exactly when it finds what it needs and everything is written, and the strict one when
in addition no configuration file and no device failed. If the folder with the configurations cannot
be listed or the topology cannot be read, both fail and nothing is written. -/
theorem run_strict {strictArgs : List String}
    (lenient : Options.ofArguments? args = some { o with strict := false })
    (strict : Options.ofArguments? strictArgs = some { o with strict := true })
    (processors processors' : Nat) (t : FileTree) :
    Options.ofArguments? ("--strict" :: args) = some { o with strict := true } ∧
      effects processors strictArgs t = effects processors' args t ∧
      (run processors strictArgs t).2 = (run processors' args t).2 ∧
      ((run processors' args t).1 = 0 ↔
        ∃ entries topology, Completes o t entries topology) ∧
      ((run processors strictArgs t).1 = 0 ↔
        ∃ entries topology, Completes o t entries topology ∧ Flawless entries) ∧
      (t.list? o.configs = none ∨ (∀ topology, ¬ReadsTopology t o.topology topology) →
        effects processors' args t = [] ∧ (run processors' args t).2 = t ∧
          (run processors' args t).1 ≠ 0 ∧ (run processors strictArgs t).1 ≠ 0) := by
  have plan := actions_make { o with strict := false } t processors processors' true
  have same : effects processors strictArgs t = effects processors' args t := by
    rw [effects_eq strict, effects_eq lenient]
    exact congrArg (carriedOut t) plan
  have left : (run processors strictArgs t).2 = (run processors' args t).2 := by
    rw [run_eq strict, run_eq lenient]
    exact congrArg (fun actions => (performAll t actions).1) plan
  refine ⟨Options.ofArguments?_cons_strict lenient, same, left, ?_, ?_, fun missing => ?_⟩
  · rw [run_succeeds_iff lenient]
    simp only [completes_iff, Bool.false_eq_true, false_implies, and_true]
  · rw [run_succeeds_iff strict]
    simp only [completes_iff, true_implies]
  · have unfound (b : Bool) :
        ¬∃ entries topology, Finds { o with strict := b } t entries topology := by
      rintro ⟨entries, topology, listed, read⟩
      obtain unlisted | unread := missing
      · rw [unlisted] at listed
        cases listed
      · exact unread topology read
    obtain ⟨nothing, ended⟩ := run_of_unfound lenient (unfound false) processors'
    obtain ⟨_, ended'⟩ := run_of_unfound strict (unfound true) processors
    rw [ended, ended']
    exact ⟨nothing, rfl, Nat.one_ne_zero, Nat.one_ne_zero⟩

/-- A folder next to that of the run, with a configuration and a file that is none. -/
def halfConfigured : FileTree :=
  { ((FileTree.empty.plant ["run"] .folder).plant ["configs", "r0.json"]
      (.file (some "\x7b\"hostname\":\"r0\",\"vendor\":\"cisco\"\x7d"))).plant
        ["configs", "r1.json"] (.file (some "\x7b\x7d")) with current := ["run"] }

/-- A configuration that cannot be read does not matter unless the run is strict. -/
theorem run_strict_halfConfigured :
    Options.ofArguments? ["-c", "/configs"] = some ⟨"/configs", none, "facts", none, none, false⟩ ∧
      Options.ofArguments? ["-c", "/configs", "--strict"] =
        some ⟨"/configs", none, "facts", none, none, true⟩ ∧
      (run 2 ["-c", "/configs"] halfConfigured).1 = 0 ∧
      (run 1 ["-c", "/configs", "--strict"] halfConfigured).1 ≠ 0 ∧
      (run 1 ["-c", "/configs", "--strict"] halfConfigured).2 =
        (run 2 ["-c", "/configs"] halfConfigured).2 := by
  let o : Options := ⟨"/configs", none, "facts", none, none, false⟩
  have lenient : Options.ofArguments? ["-c", "/configs"] = some { o with strict := false } := by
    decide +kernel
  have strict : Options.ofArguments? ["-c", "/configs", "--strict"] =
      some { o with strict := true } := by decide +kernel
  obtain ⟨_, _, trees, succeeds, flawless, _⟩ := run_strict lenient strict 1 2 halfConfigured
  have listed : halfConfigured.list? "/configs" = some
      [("r0.json", .file (some "\x7b\"hostname\":\"r0\",\"vendor\":\"cisco\"\x7d")),
        ("r1.json", .file (some "\x7b\x7d"))] := by decide +kernel
  have made : halfConfigured.makeFolders "facts" =
      (halfConfigured.plant ["run", "facts"] .folder, true) := by decide +kernel
  have reached : (halfConfigured.plant ["run", "facts"] .folder).base? "facts" =
      some ["run", "facts"] := by decide +kernel
  have found : Finds o halfConfigured _ none := ⟨listed, .unasked⟩
  have completes := found.completes rfl made reached (by decide +kernel) (by decide) (by decide)
  refine ⟨lenient, strict, succeeds.2 ⟨_, none, completes⟩, fun nothingFailed => ?_, trees⟩
  obtain ⟨entries, topology, completes, sound⟩ := flawless.1 nothingFailed
  obtain rfl := Option.some.inj (listed.symm.trans completes.listed)
  have rejected : Json.read? Device "\x7b\x7d" = none := by decide +kernel
  have extension : FileName.extension? "r1.json" = some "json" := by decide
  obtain ⟨device, text, held, read⟩ :=
    sound.loaded ("r1.json", .file (some "\x7b\x7d")) (by decide) extension
  obtain rfl := Option.some.inj (Node.file.inj held)
  rw [rejected] at read
  cases read

end Program

end ConfigFacts
