import ConfigFacts.Proofs.Directory.FileName
import ConfigFacts.Proofs.Network.Sequential
import ConfigFacts.Proofs.Text.ByteOrder

/-!
# What a directory is read as

Every configuration file of a folder is either one of the devices of the directory or one of its
failures (`ConfigDirectory.Represents`), and it does not matter for the others what it is
(`ConfigDirectory.filter_byName_eq`). Other entries do not matter at all. Both are stated together in
`ConfigDirectory.ofEntries_keeps_every_file`.
-/

namespace ConfigFacts.ConfigDirectory

/-- An entry of a folder: a name and what it names. -/
abbrev Entry := String × Node

/-- Whether an entry is a configuration file: its extension is exactly `json`. -/
def isConfiguration (e : Entry) : Bool :=
  FileName.extension? e.1 = some "json"

/-- The configurations are the files with the extension `json`. -/
theorem isConfiguration_iff {e : Entry} :
    isConfiguration e = true ↔ FileName.extension? e.1 = some "json" :=
  decide_eq_true_iff

/-- A node holds a device: it is a file whose text is a configuration. -/
def Holds (node : Node) (device : Device) : Prop :=
  ∃ text, node = .file (some text) ∧ Json.read? Device text = some device

/-- Why a node holds no device. -/
inductive Lacks : Node → LoadFailure → Prop where
  /-- A folder has no content. -/
  | folder : Lacks .folder .unreadable
  /-- The content of a file is no text. -/
  | bytes : Lacks (.file none) .unreadable
  /-- The text of a file is no configuration. -/
  | text {text : String} (rejected : Json.read? Device text = none) :
      Lacks (.file (some text)) .malformed

/-- Loading succeeds with the device that a file holds. -/
theorem load_eq_ok_iff {node : Node} {device : Device} :
    load node = .ok device ↔ Holds node device := by
  unfold load Holds
  constructor
  · intro loaded
    split at loaded
    · cases loaded
    · cases loaded
    next text =>
      split at loaded
      next d read => exact ⟨text, rfl, read.trans (congrArg some (Except.ok.inj loaded))⟩
      · cases loaded
  · rintro ⟨text, rfl, read⟩
    simp only [read]

/-- Loading fails with the reason why a file holds no device. -/
theorem load_eq_error_iff {node : Node} {failure : LoadFailure} :
    load node = .error failure ↔ Lacks node failure := by
  unfold load
  constructor
  · intro failed
    split at failed
    · exact Except.error.inj failed ▸ .folder
    · exact Except.error.inj failed ▸ .bytes
    · split at failed
      · cases failed
      next rejected => exact Except.error.inj failed ▸ .text rejected
  · rintro (_ | _ | rejected)
    · rfl
    · rfl
    · simp only [rejected]

/-- The stem of a configuration file. -/
theorem stem?_isSome (e : Entry) : (stem? e.1).isSome = isConfiguration e := by
  rw [Bool.eq_iff_iff, isConfiguration_iff, Option.isSome_iff_exists,
    FileName.extension?_eq_some_iff]
  exact exists_congr fun stem => stem?_eq_some_iff

/-! ### The entries one by one -/

/-- The device of an entry. -/
def device? (e : Entry) : Option Device :=
  if isConfiguration e then (load e.2).toOption else none

/-- The failure of an entry, with the stem of its name. -/
def failure? (e : Entry) : Option (String × LoadFailure) :=
  (stem? e.1).bind fun stem =>
    match load e.2 with
    | .ok _ => none
    | .error failure => some (stem, failure)

/-- A file in the folder gives the device that it holds if it is a configuration. -/
theorem device?_eq_some_iff {e : Entry} {device : Device} :
    device? e = some device ↔ isConfiguration e = true ∧ Holds e.2 device := by
  unfold device?
  rw [Option.ite_none_right_eq_some, ← load_eq_ok_iff]
  cases load e.2 <;> simp [Except.toOption]

private theorem failure?_eq_some_iff {e : Entry} {stem : String} {failure : LoadFailure} :
    failure? e = some (stem, failure) ↔
      FileName.cut? e.1 = some (stem, "json") ∧ Lacks e.2 failure := by
  unfold failure?
  rw [Option.bind_eq_some_iff, ← stem?_eq_some_iff, ← load_eq_error_iff]
  cases load e.2 <;> simp

private theorem add_entry (d : ConfigDirectory) (e : Entry) :
    d.add e.1 e.2 = ⟨d.devices ++ (device? e).toList,
      (failure? e).toList.foldl (fun m p => m.insert p.1 p.2) d.failures⟩ := by
  unfold add device? failure?
  rw [← stem?_isSome]
  cases stem? e.1 with
  | none => simp
  | some stem =>
      cases load e.2 with
      | ok device => rfl
      | error failure => simp [Except.toOption]

private theorem filterMap_cons_toList {α β : Type} (f : α → Option β) (a : α) (as : List α) :
    (a :: as).filterMap f = (f a).toList ++ as.filterMap f := by
  rw [List.filterMap_cons]
  cases f a <;> rfl

private theorem foldl_add (d : ConfigDirectory) (es : List Entry) :
    es.foldl (fun d e => d.add e.1 e.2) d = ⟨d.devices ++ es.filterMap device?,
      (es.filterMap failure?).foldl (fun m p => m.insert p.1 p.2) d.failures⟩ := by
  induction es generalizing d with
  | nil => simp only [List.foldl_nil, List.filterMap_nil, List.append_nil]
  | cons e rest ih =>
      rw [List.foldl_cons, ih, add_entry, filterMap_cons_toList, filterMap_cons_toList,
        List.foldl_append, List.append_assoc]

/-- The entries of a folder in the order of their names. -/
def byName (entries : List Entry) : List Entry :=
  entries.mergeSort fun a b => (compare a.1 b.1).isLE

/-- The devices and the failures of a folder are those of its entries, ordered by name. -/
theorem ofEntries_eq (entries : List Entry) :
    ofEntries entries = ⟨(byName entries).filterMap device?,
      .ofList ((byName entries).filterMap failure?)⟩ :=
  foldl_add empty (byName entries)

private theorem byName_perm (entries : List Entry) : (byName entries).Perm entries :=
  List.mergeSort_perm _ _

/-- The names of entries are in the order of their bytes. -/
theorem byName_sorted {entries : List Entry} (distinct : (entries.map Prod.fst).Nodup) :
    (byName entries).Pairwise fun a b => Text.bytes a.1 < Text.bytes b.1 := by
  have sorted := Network.pairwise_mergeSort_isLE (compareOn fun e : Entry => e.1) entries
  have apart : (byName entries).Pairwise fun a b => a.1 ≠ b.1 :=
    List.pairwise_map.1 (((byName_perm entries).map Prod.fst).nodup_iff.2 distinct)
  refine (sorted.and apart).imp fun {a b} both => Text.bytes_lt_iff.2 ?_
  obtain ⟨notGreater, different⟩ := both
  cases level : compare a.1 b.1 with
  | lt => exact compareOfLessAndEq_eq_lt.1 level
  | eq => exact absurd (Std.LawfulEqCmp.eq_of_compare level) different
  | gt =>
      simp only [compareOn, level] at notGreater
      cases notGreater

/-- Entries that two folders have in common are in the same order in both. -/
theorem filter_byName_eq {entries others : List Entry} {p : Entry → Bool}
    (distinct : (entries.map Prod.fst).Nodup) (distinct' : (others.map Prod.fst).Nodup)
    (common : (entries.filter p).Perm (others.filter p)) :
    (byName entries).filter p = (byName others).filter p := by
  have same : ((byName entries).filter p).Perm ((byName others).filter p) :=
    ((byName_perm entries).filter p).trans (common.trans ((byName_perm others).filter p).symm)
  refine List.Perm.eq_of_pairwise ?_ ((byName_sorted distinct).filter p)
    ((byName_sorted distinct').filter p) same
  intro a b _ _ less greater
  exact absurd greater (List.lt_asymm less)

/-! ### What is kept -/

/-- The devices in a folder under the names of their files, in the order of the names. -/
def loaded (entries : List Entry) : List (String × Device) :=
  (byName entries).filterMap fun e => (device? e).map fun device => (e.1, device)

/-- A directory is what a folder with some entries holds, its devices coming from some files. -/
structure Represents (d : ConfigDirectory) (entries : List Entry)
    (files : List (String × Device)) : Prop where
  /-- The files are in the order of the bytes of their names. -/
  sorted : files.Pairwise fun a b => Text.bytes a.1 < Text.bytes b.1
  /-- They are the configuration files that hold a device. -/
  held : ∀ name device, (name, device) ∈ files ↔ ∃ node, (name, node) ∈ entries ∧
    FileName.extension? name = some "json" ∧ Holds node device
  /-- The devices are those of the files. -/
  devices : d.devices = files.map Prod.snd
  /-- The failures are the other configuration files, under their stems. -/
  failures : ∀ stem failure, d.failures.get? stem = some failure ↔ ∃ name node,
    (name, node) ∈ entries ∧ FileName.cut? name = some (stem, "json") ∧ Lacks node failure
  /-- Every configuration file is counted once. -/
  count : d.devices.length + d.failures.size = (entries.filter isConfiguration).length

section Entries

variable {entries others : List Entry}

/-- Files with different names have different stems. -/
theorem stems_nodup (distinct : (entries.map Prod.fst).Nodup) :
    ((entries.filterMap failure?).map Prod.fst).Nodup := by
  unfold List.Nodup
  rw [List.pairwise_map, List.pairwise_filterMap]
  refine (List.pairwise_map.1 distinct).imp fun {a b} different p found q found' same => different ?_
  obtain ⟨stem, _⟩ := p
  obtain ⟨_, _⟩ := q
  obtain rfl : stem = _ := same
  have cut := (FileName.cut?_eq_some_iff.1 (failure?_eq_some_iff.1 found).1).2.2
  have cut' := (FileName.cut?_eq_some_iff.1 (failure?_eq_some_iff.1 found').1).2.2
  exact cut.trans cut'.symm

private theorem get?_failures_eq_some_iff (distinct : (entries.map Prod.fst).Nodup) {stem : String}
    {failure : LoadFailure} : (ofEntries entries).failures.get? stem = some failure ↔
      ∃ name node, (name, node) ∈ entries ∧ FileName.cut? name = some (stem, "json") ∧
        Lacks node failure := by
  have ordered : ((byName entries).map Prod.fst).Nodup :=
    ((byName_perm entries).map Prod.fst).nodup_iff.2 distinct
  rw [ofEntries_eq, SortedMap.get?_ofList_eq_some_iff (stems_nodup ordered), List.mem_filterMap]
  constructor
  · rintro ⟨⟨name, node⟩, member, found⟩
    obtain ⟨cut, lacks⟩ := failure?_eq_some_iff.1 found
    exact ⟨name, node, (byName_perm entries).mem_iff.1 member, cut, lacks⟩
  · rintro ⟨name, node, member, cut, lacks⟩
    have found : failure? (name, node) = some (stem, failure) :=
      failure?_eq_some_iff.2 ⟨cut, lacks⟩
    exact ⟨(name, node), (byName_perm entries).mem_iff.2 member, found⟩

/-- There are no failures when every configuration file holds a device. -/
theorem isEmpty_failures_iff (distinct : (entries.map Prod.fst).Nodup) :
    (ofEntries entries).failures.entries.isEmpty = true ↔
      ∀ e ∈ entries, FileName.extension? e.1 = some "json" → ∃ device, Holds e.2 device := by
  rw [List.isEmpty_iff, List.eq_nil_iff_forall_not_mem]
  constructor
  · rintro sound ⟨name, node⟩ member extension
    obtain ⟨stem, cut⟩ := FileName.extension?_eq_some_iff.1 extension
    cases outcome : load node with
    | ok device => exact ⟨device, load_eq_ok_iff.1 outcome⟩
    | error failure =>
        have stored := (get?_failures_eq_some_iff distinct).2
          ⟨name, node, member, cut, load_eq_error_iff.1 outcome⟩
        exact absurd ((SortedMap.mem_entries_iff _ stem failure).2 stored) (sound _)
  · rintro sound ⟨stem, failure⟩ stored
    obtain ⟨name, node, member, cut, lacks⟩ :=
      (get?_failures_eq_some_iff distinct).1
        ((SortedMap.mem_entries_iff _ stem failure).1 stored)
    obtain ⟨device, holds⟩ :=
      sound (name, node) member (FileName.extension?_eq_some_iff.2 ⟨stem, cut⟩)
    have both := load_eq_ok_iff.2 holds
    rw [load_eq_error_iff.2 lacks] at both
    cases both

/-- Every configuration file is a device or a failure, and no other entry is either. -/
theorem length_devices_add_length_failures (es : List Entry) :
    (es.filterMap device?).length + (es.filterMap failure?).length =
      (es.filter isConfiguration).length := by
  have once (e : Entry) : (device? e).toList.length + (failure? e).toList.length =
      if isConfiguration e then 1 else 0 := by
    unfold device? failure?
    rw [← stem?_isSome]
    cases stem? e.1 with
    | none => rfl
    | some stem => cases load e.2 <;> rfl
  rw [← List.countP_eq_length_filter]
  induction es with
  | nil => rfl
  | cons e rest ih =>
      have here := once e
      rw [filterMap_cons_toList, filterMap_cons_toList, List.countP_cons, List.length_append,
        List.length_append]
      omega

private theorem map_snd_loaded (entries : List Entry) :
    (loaded entries).map Prod.snd = (byName entries).filterMap device? := by
  unfold loaded
  rw [List.map_filterMap]
  refine congrArg (fun f => List.filterMap f (byName entries)) (funext fun e => ?_)
  cases device? e with
  | none => rfl
  | some device => rfl

/-- A folder is read as a directory that represents it, with the files that are loaded. -/
theorem represents_ofEntries (distinct : (entries.map Prod.fst).Nodup) :
    Represents (ofEntries entries) entries (loaded entries) where
  sorted := by
    unfold loaded
    rw [List.pairwise_filterMap]
    refine (byName_sorted distinct).imp fun {a b} less p found q found' => ?_
    obtain ⟨_, _, rfl⟩ := Option.map_eq_some_iff.1 found
    obtain ⟨_, _, rfl⟩ := Option.map_eq_some_iff.1 found'
    exact less
  held name device := by
    unfold loaded
    rw [List.mem_filterMap]
    constructor
    · rintro ⟨⟨file, node⟩, member, found⟩
      obtain ⟨_, holds, same⟩ := Option.map_eq_some_iff.1 found
      obtain ⟨rfl, rfl⟩ := Prod.mk.inj same
      obtain ⟨configuration, holds⟩ := device?_eq_some_iff.1 holds
      exact ⟨node, (byName_perm entries).mem_iff.1 member, isConfiguration_iff.1 configuration,
        holds⟩
    · rintro ⟨node, member, extension, holds⟩
      have configuration : isConfiguration (name, node) = true := isConfiguration_iff.2 extension
      have found : device? (name, node) = some device :=
        device?_eq_some_iff.2 ⟨configuration, holds⟩
      exact ⟨(name, node), (byName_perm entries).mem_iff.2 member, by rw [found]; rfl⟩
  devices := by rw [ofEntries_eq, map_snd_loaded]
  failures _ _ := get?_failures_eq_some_iff distinct
  count := by
    have ordered : ((byName entries).map Prod.fst).Nodup :=
      ((byName_perm entries).map Prod.fst).nodup_iff.2 distinct
    have stored := (SortedMap.entries_ofList_perm (stems_nodup ordered)).length_eq
    rw [ofEntries_eq, SortedMap.size, stored, length_devices_add_length_failures]
    exact ((byName_perm entries).filter isConfiguration).length_eq

/-! ### What one entry changes -/

/-- Entries without a result may be left out. -/
theorem filterMap_filter_of_some {α : Type} {f : Entry → Option α} {p : Entry → Bool}
    (kept : ∀ e a, f e = some a → p e = true) (es : List Entry) :
    (es.filter p).filterMap f = es.filterMap f := by
  rw [List.filterMap_filter]
  refine congrArg (fun g => List.filterMap g es) (funext fun e => ?_)
  cases found : f e with
  | none => exact ite_self none
  | some a => rw [if_pos (kept e a found)]

/-- The directory depends on the configuration files only. -/
theorem ofEntries_eq_of_configurations (distinct : (entries.map Prod.fst).Nodup)
    (distinct' : (others.map Prod.fst).Nodup)
    (common : (entries.filter isConfiguration).Perm (others.filter isConfiguration)) :
    ofEntries entries = ofEntries others := by
  have devices : ∀ e a, device? e = some a → isConfiguration e = true :=
    fun e a found => (device?_eq_some_iff.1 found).1
  have failures : ∀ e a, failure? e = some a → isConfiguration e = true := by
    rintro e ⟨stem, failure⟩ found
    have cut := (failure?_eq_some_iff.1 found).1
    exact isConfiguration_iff.2 (FileName.extension?_eq_some_iff.2 ⟨stem, cut⟩)
  have same := filter_byName_eq distinct distinct' common
  rw [ofEntries_eq, ofEntries_eq, ← filterMap_filter_of_some devices,
    ← filterMap_filter_of_some failures, same, filterMap_filter_of_some devices,
    filterMap_filter_of_some failures]

/-- Folders have the same entries of a sort when each of these is in both. -/
theorem filter_perm_of_apart {p : Entry → Bool} (distinct : (entries.map Prod.fst).Nodup)
    (distinct' : (others.map Prod.fst).Nodup)
    (apart : ∀ e, p e = true → (e ∈ entries ↔ e ∈ others)) :
    (entries.filter p).Perm (others.filter p) := by
  apply (List.perm_ext_iff_of_nodup ((List.Nodup.of_map _ distinct).filter p)
    ((List.Nodup.of_map _ distinct').filter p)).2
  intro e
  rw [List.mem_filter, List.mem_filter]
  exact and_congr_left fun kept => apart e kept

/-- The devices depend on the entries that hold one. -/
theorem devices_eq_of_loaded (distinct : (entries.map Prod.fst).Nodup)
    (distinct' : (others.map Prod.fst).Nodup)
    (common : ∀ e, (device? e).isSome = true → (e ∈ entries ↔ e ∈ others)) :
    (ofEntries entries).devices = (ofEntries others).devices := by
  have kept : ∀ e a, device? e = some a → (device? e).isSome = true :=
    fun e a found => by rw [found]; rfl
  have same := filter_byName_eq distinct distinct' (filter_perm_of_apart distinct distinct' common)
  rw [ofEntries_eq, ofEntries_eq]
  change (byName entries).filterMap device? = (byName others).filterMap device?
  rw [← filterMap_filter_of_some kept, same, filterMap_filter_of_some kept]

private theorem filter_loaded (name : String) : (loaded entries).filter (fun f => f.1 ≠ name) =
    ((byName entries).filter fun e => e.1 ≠ name).filterMap
      fun e => (device? e).map fun device => (e.1, device) := by
  unfold loaded
  rw [List.filter_filterMap, List.filterMap_filter]
  refine congrArg (fun g => List.filterMap g (byName entries)) (funext fun e => ?_)
  cases device? e with
  | none => exact (ite_self none).symm
  | some device => rfl

/-- A failure is told by the entry with its stem. -/
theorem get?_failures_of_apart (distinct : (entries.map Prod.fst).Nodup)
    (distinct' : (others.map Prod.fst).Nodup) {name : String}
    (apart : ∀ e : Entry, e.1 ≠ name → (e ∈ entries ↔ e ∈ others)) {stem : String}
    (other : FileName.cut? name ≠ some (stem, "json")) :
    (ofEntries entries).failures.get? stem = (ofEntries others).failures.get? stem := by
  apply Option.ext
  intro failure
  rw [get?_failures_eq_some_iff distinct, get?_failures_eq_some_iff distinct']
  refine exists_congr fun file => exists_congr fun node => and_congr_left ?_
  rintro ⟨cut, _⟩
  apply apart
  rintro rfl
  exact other cut

/-- **Every configuration file is kept.** The directory of a folder is made of its configuration
files: those that hold a device, in the order of the bytes of their names, and the failures of all
others. Another node under one name leaves the other devices and their order, and the failures under
other stems; under a name that is not that of a configuration file it leaves everything. -/
theorem ofEntries_keeps_every_file (distinct : (entries.map Prod.fst).Nodup) :
    Represents (ofEntries entries) entries (loaded entries) ∧
      ∀ (others : List Entry) (name : String), (others.map Prod.fst).Nodup →
        (∀ e, e.1 ≠ name → (e ∈ entries ↔ e ∈ others)) →
          ((loaded entries).filter fun f => f.1 ≠ name) =
              ((loaded others).filter fun f => f.1 ≠ name) ∧
            (∀ stem, FileName.cut? name ≠ some (stem, "json") →
              (ofEntries entries).failures.get? stem = (ofEntries others).failures.get? stem) ∧
            (FileName.extension? name ≠ some "json" → ofEntries entries = ofEntries others) := by
  refine ⟨represents_ofEntries distinct, fun others name distinct' apart => ⟨?_, ?_, ?_⟩⟩
  · have common := filter_perm_of_apart distinct distinct'
      fun e different => apart e (of_decide_eq_true different)
    rw [filter_loaded, filter_loaded, filter_byName_eq distinct distinct' common]
  · exact fun stem other => get?_failures_of_apart distinct distinct' apart other
  · intro foreign
    apply ofEntries_eq_of_configurations distinct distinct'
    refine filter_perm_of_apart distinct distinct' fun e configuration => apart e ?_
    rintro rfl
    exact foreign (isConfiguration_iff.1 configuration)

end Entries

/-- A folder with a configuration, a text that is none, a folder and a file without an extension,
the last two named like configurations. -/
def mixedFolder : List Entry :=
  [("r1.json", .file (some "\x7b\x7d")), ("a.b.json", .folder), (".json", .file none),
    ("r0.json", .file (some "\x7b\"hostname\":\"r0\",\"vendor\":\"cisco\"\x7d"))]

theorem ofEntries_keeps_every_file_mixedFolder :
    (mixedFolder.map Prod.fst).Nodup ∧
      ("r0.json", Device.named "r0" "cisco") ∈ loaded mixedFolder ∧
      (ofEntries mixedFolder).failures.get? "r1" = some .malformed ∧
      (ofEntries mixedFolder).failures.get? "a.b" = some .unreadable ∧
      ofEntries mixedFolder = ofEntries (mixedFolder.eraseIdx 2) := by
  have distinct : (mixedFolder.map Prod.fst).Nodup := by decide
  obtain ⟨represents, others⟩ := ofEntries_keeps_every_file distinct
  have read : Json.read? Device "\x7b\"hostname\":\"r0\",\"vendor\":\"cisco\"\x7d" =
      some (Device.named "r0" "cisco") := by decide +kernel
  have rejected : Json.read? Device "\x7b\x7d" = none := by decide +kernel
  refine ⟨distinct, ?_, ?_, ?_, ?_⟩
  · exact (represents.held _ _).2 ⟨_, by decide, by decide, _, rfl, read⟩
  · exact (represents.failures _ _).2 ⟨"r1.json", _, by decide, by decide, .text rejected⟩
  · exact (represents.failures _ _).2 ⟨"a.b.json", _, by decide, by decide, .folder⟩
  · refine (others (mixedFolder.eraseIdx 2) ".json" (by decide) ?_).2.2 (by decide)
    intro e different
    have other : e ≠ (".json", .file none) := by
      rintro rfl
      exact different rfl
    simp [mixedFolder, other]

end ConfigFacts.ConfigDirectory
