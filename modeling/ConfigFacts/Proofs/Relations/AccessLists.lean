import ConfigFacts.Proofs.Ranges.Interval
import ConfigFacts.Proofs.Relations.Positions
import ConfigFacts.Proofs.Wire.Marks
import Mathlib.Data.List.Forall2
import Mathlib.Data.List.Induction
import Mathlib.Data.Set.List

/-!
# Access lists read back

A fact of an access list has the name of the list, the position of a line, and numbers, so its text
tells it apart from others (`Fact.texts_row_injective`). The facts about a list are those of its
lines, and those of a line tell all of it but the ports of protocols that have none
(`AccessListLine.alike_of_facts`). So two devices under one name with the same texts about access
lists have the same access lists (`Device.accessLists_from_text`).
-/

namespace ConfigFacts

/-- A line whose facts tell its action and its wildcards: it accepts or rejects, the free bits are
the last ones, and no address has one of them set. -/
structure AccessListLine.IsLegible (line : AccessListLine) : Prop where
  action : line.action ≠ .unrecognized
  valid : line.isValid = true
  source : line.source.Avoids line.sourceWildcard
  destination : line.destination.Avoids line.destinationWildcard

instance (line : AccessListLine) : Decidable line.IsLegible :=
  decidable_of_iff (line.action ≠ .unrecognized ∧ line.isValid = true ∧
      line.source.bits &&& line.sourceWildcard.bits = 0#32 ∧
      line.destination.bits &&& line.destinationWildcard.bits = 0#32)
    ⟨fun ⟨action, valid, source, destination⟩ => ⟨action, valid, source, destination⟩,
      fun ⟨action, valid, source, destination⟩ => ⟨action, valid, source, destination⟩⟩

/-- Two lines differ at most in the ports of a protocol without ports. -/
structure AccessListLine.Alike (line other : AccessListLine) : Prop where
  action : line.action = other.action
  protocol : line.protocol = other.protocol
  source : line.source = other.source
  sourceWildcard : line.sourceWildcard = other.sourceWildcard
  destination : line.destination = other.destination
  destinationWildcard : line.destinationWildcard = other.destinationWildcard
  sourcePorts : line.protocol = .tcp ∨ line.protocol = .udp →
    line.sourcePorts = other.sourcePorts
  destinationPorts : line.protocol = .tcp ∨ line.protocol = .udp →
    line.destinationPorts = other.destinationPorts

/-- A device whose access lists can be read back from their facts. -/
structure Device.HasLegibleLists (d : Device) : Prop where
  hostname : Text.Unmarked d.hostname
  names : ∀ e ∈ d.accessLists.entries, Text.Unmarked e.1
  lines : ∀ e ∈ d.accessLists.entries, ∀ line ∈ e.2.lines, line.IsLegible

instance (d : Device) : Decidable d.HasLegibleLists :=
  have (s : String) : Decidable (Text.Unmarked s) := inferInstanceAs (Decidable (_ ∧ _))
  decidable_of_iff (Text.Unmarked d.hostname ∧
      (∀ e ∈ d.accessLists.entries, Text.Unmarked e.1) ∧
      ∀ e ∈ d.accessLists.entries, ∀ line ∈ e.2.lines, line.IsLegible)
    ⟨fun ⟨hostname, names, lines⟩ => ⟨hostname, names, lines⟩,
      fun ⟨hostname, names, lines⟩ => ⟨hostname, names, lines⟩⟩

/-- The lines of the access list with a name. There are none if there is no such list. -/
def Device.accessLines (d : Device) (name : String) : List AccessListLine :=
  (d.accessLists.get? name).elim [] AccessList.lines

/-- A fact of the name of a structure and of numbers. -/
def Fact.row (k : FactKind) (hostname : String) (r : String × List Nat) : Fact :=
  ⟨k, .name (qualify hostname r.1) :: r.2.map .number⟩

/-- A fact is a row that names its structure without marks. -/
def Fact.IsRow (k : FactKind) (hostname : String) (f : Fact) : Prop :=
  ∃ r, Text.Unmarked r.1 ∧ row k hostname r = f

/-! ### Rows -/

namespace Fact

private theorem texts_row (k : FactKind) (hostname : String) (r : String × List Nat) :
    (row k hostname r).texts = toString (qualify hostname r.1) :: r.2.map toString := by
  rw [texts, row, List.map_cons, List.map_map]
  rfl

/-- Under one hostname, rows are told apart by their texts. -/
theorem texts_row_injective (k : FactKind) (hostname : String) :
    Function.Injective fun r => (row k hostname r).texts := by
  rintro ⟨name, numbers⟩ ⟨name', numbers'⟩ same
  simp only [texts_row, List.cons.injEq] at same
  obtain ⟨names, digits⟩ := same
  have front : hostname ++ ":" ++ name = hostname ++ ":" ++ name' := names
  have number : Function.Injective fun n : Nat => toString n := fun _ _ => Text.number_injective
  rw [(String.append_right_inj _).1 front, List.map_injective_iff.2 number digits]

private theorem isPlain_row {k : FactKind} {hostname : String} {r : String × List Nat}
    (host : Text.Unmarked hostname) (name : Text.Unmarked r.1) : (row k hostname r).IsPlain := by
  refine isPlain_of_strings (List.cons_ne_nil _ _) fun s member => ?_
  have silent : (r.2.map Field.number).flatMap Field.strings = [] := by
    rw [List.flatMap_eq_nil_iff]
    intro field listed
    obtain ⟨_, _, rfl⟩ := List.mem_map.1 listed
    rfl
  rw [strings, row, List.flatMap_cons, silent, List.append_nil] at member
  rcases List.mem_cons.1 member with rfl | rest
  · exact host
  · exact List.mem_singleton.1 rest ▸ name

/-- Rows of one hostname without marks are told apart by their text. -/
theorem eq_of_text_rows {k : FactKind} {hostname : String} {fs gs : List Fact}
    (host : Text.Unmarked hostname) (rows : ∀ f ∈ fs, f.IsRow k hostname)
    (rows' : ∀ f ∈ gs, f.IsRow k hostname) (same : text k fs = text k gs) : fs = gs := by
  have plain {hs : List Fact} (rows : ∀ f ∈ hs, f.IsRow k hostname) : ∀ f ∈ hs, f.IsPlain := by
    intro f member
    obtain ⟨r, name, rfl⟩ := rows f member
    exact isPlain_row host name
  have listed {hs : List Fact} (rows : ∀ f ∈ hs, f.IsRow k hostname) :
      ∃ rs : List (String × List Nat), rs.map (row k hostname) = hs := by
    have member : hs ∈ Set.range (List.map (row k hostname)) := by
      rw [Set.range_list_map]
      intro f member
      obtain ⟨r, _, same⟩ := rows f member
      exact ⟨r, same⟩
    exact member
  have tuples_rows (rs : List (String × List Nat)) :
      tuples k (rs.map (row k hostname)) = rs.map fun r => (row k hostname r).texts := by
    rw [tuples, List.filter_eq_self.2, List.map_map]
    · rfl
    · exact List.forall_mem_map.2 fun r _ => decide_eq_true rfl
  have tuples := (text_eq_iff (plain rows) (plain rows')).1 same
  obtain ⟨rs, rfl⟩ := listed rows
  obtain ⟨rs', rfl⟩ := listed rows'
  rw [tuples_rows, tuples_rows] at tuples
  rw [List.map_injective_iff.2 (texts_row_injective k hostname) tuples]

/-- The facts of lines at a position are those of the line there. -/
theorem filter_ofLines {α : Type} {facts : Nat → α → List Fact}
    (number : ∀ i x, ∀ f ∈ facts i x, f.number 1 = i) (lines : List α) (i : Nat) :
    (ofLines facts lines).filter (fun f => f.number 1 = i) = lines[i]?.elim [] (facts i) := by
  have elsewhere {j : Nat} (other : j ≠ i) (x : α) :
      (facts j x).filter (fun f => f.number 1 = i) = [] :=
    List.filter_eq_nil_iff.2 fun f member shown =>
      other ((number j x f member).symm.trans (of_decide_eq_true shown))
  -- The last line is at the position that counts the lines before it.
  induction lines using List.reverseRecOn with
  | nil => rfl
  | append_singleton lines x ih =>
      have last : ofLines facts (lines ++ [x]) = ofLines facts lines ++ facts lines.length x := by
        simp [ofLines, List.zipIdx_append]
      rw [last, List.filter_append, ih]
      rcases Nat.lt_trichotomy i lines.length with inside | rfl | outside
      · rw [List.getElem?_append_left inside, elsewhere inside.ne', List.append_nil]
      · rw [List.getElem?_concat_length, List.getElem?_eq_none (Nat.le_refl _)]
        exact List.filter_eq_self.2 fun f member => decide_eq_true (number _ _ f member)
      · have behind : (lines ++ [x]).length ≤ i := by
          rw [List.length_append]
          exact outside
        rw [List.getElem?_eq_none outside.le, List.getElem?_eq_none behind, elsewhere outside.ne]
        rfl

end Fact

/-! ### Lines -/

/-- The highest match of a wildcard tells its bits where the address has none of them set. -/
theorem Address.wildcard_eq {a w w' : Address} (avoids : a.Avoids w) (avoids' : a.Avoids w')
    (same : a.wildcardEnd w = a.wildcardEnd w') : w = w' := by
  have bits : w.bits = w'.bits := by
    apply BitVec.eq_of_getLsbD_eq
    intro i _
    have free := congrArg (fun b => b.getLsbD i) avoids
    have free' := congrArg (fun b => b.getLsbD i) avoids'
    have last := congrArg (fun a => a.bits.getLsbD i) same
    simp only [wildcardEnd, BitVec.getLsbD_or, BitVec.getLsbD_and, BitVec.getLsbD_zero] at *
    cases set : a.bits.getLsbD i with
    | false => simpa only [set, Bool.false_or] using last
    | true =>
        rw [set, Bool.true_and] at free free'
        rw [free, free']
  exact toNat_injective (congrArg BitVec.toNat bits)

private theorem LineAction.eq_of_reject_iff {a b : LineAction} (known : a ≠ .unrecognized)
    (known' : b ≠ .unrecognized) (same : a = .reject ↔ b = .reject) : a = b := by
  cases a <;> cases b <;> simp at *

/-- Protocols are told apart by their numbers. -/
theorem Protocol.number_injective : Function.Injective fun p : Protocol => p.number.toNat := by
  rintro ⟨number⟩ ⟨number'⟩ same
  exact congrArg mk (UInt8.toNat_inj.1 same)

namespace AccessListLine

variable {list : QualifiedName} {i : Nat}

private theorem exists_row {hostname name : String} {k : FactKind} (line : AccessListLine) :
    ∀ f ∈ line.facts (qualify hostname name) i k,
      ∃ numbers, Fact.row k hostname (name, numbers) = f := by
  intro f member
  unfold facts at member
  split at member <;> try split at member
  case h_1.isTrue =>
    rw [List.mem_singleton.1 member]
    exact ⟨[i, line.protocol.number.toNat, line.source.toNat, _, line.destination.toNat, _], rfl⟩
  case h_2.isTrue =>
    rw [List.mem_singleton.1 member]
    exact ⟨[i], rfl⟩
  case h_3.isTrue | h_4.isTrue =>
    obtain ⟨s, _, rfl⟩ := List.mem_map.1 member
    exact ⟨[i, s.first.toNat, s.last.toNat], rfl⟩
  all_goals cases member

private theorem spans_eq_of_map {k : FactKind} {spans spans' : List Span}
    (same : (spans.map fun s => (⟨k, [list, i, s.first, s.last]⟩ : Fact)) =
      spans'.map fun s => ⟨k, [list, i, s.first, s.last]⟩) : spans = spans' := by
  refine List.map_injective_iff.2 ?_ same
  rintro ⟨first, last⟩ ⟨first', last'⟩ row
  simpa [UInt32.toNat_inj] using row

/-- The facts of a line tell all but the ports of a protocol without ports. -/
theorem alike_of_facts (list : QualifiedName) (i : Nat) {line other : AccessListLine}
    (legible : line.IsLegible) (legible' : other.IsLegible)
    (same : ∀ k, k.family? = some .accessLists → line.facts list i k = other.facts list i k) :
    line.Alike other := by
  have own := same .accessListLine rfl
  simp only [facts, legible.valid, legible'.valid, ↓reduceIte, Device.accessLineFact,
    List.cons.injEq, Fact.mk.injEq, Field.number.injEq, true_and, and_true] at own
  obtain ⟨protocol, source, sourceEnd, destination, destinationEnd⟩ := own
  have protocol := Protocol.number_injective protocol
  have source := Address.toNat_injective source
  have destination := Address.toNat_injective destination
  have sourceEnd := Address.toNat_injective sourceEnd
  have destinationEnd := Address.toNat_injective destinationEnd
  refine ⟨?_, protocol, source, ?_, destination, ?_, fun ported => ?_, fun ported => ?_⟩
  · have mark := same .accessListDenyLine rfl
    simp only [facts, legible.valid, legible'.valid, true_and] at mark
    refine LineAction.eq_of_reject_iff legible.action legible'.action ?_
    by_cases first : line.action = .reject <;> by_cases second : other.action = .reject <;>
      simp [first, second] at mark ⊢
  · exact Address.wildcard_eq legible.source (source ▸ legible'.source) (source ▸ sourceEnd)
  · exact Address.wildcard_eq legible.destination (destination ▸ legible'.destination)
      (destination ▸ destinationEnd)
  · have rows := same .accessListSourcePorts rfl
    have ported' := protocol ▸ ported
    simp only [facts, legible.valid, legible'.valid, ported, ported', and_self, ↓reduceIte] at rows
    exact spans_eq_of_map rows
  · have rows := same .accessListDestinationPorts rfl
    have ported' := protocol ▸ ported
    simp only [facts, legible.valid, legible'.valid, ported, ported', and_self, ↓reduceIte] at rows
    exact spans_eq_of_map rows

private theorem forall₂_alike (list : QualifiedName) {lines others : List AccessListLine}
    (legible : ∀ line ∈ lines, line.IsLegible) (legible' : ∀ line ∈ others, line.IsLegible)
    (same : ∀ i k, k.family? = some .accessLists →
      lines[i]?.elim [] (facts list i · k) = others[i]?.elim [] (facts list i · k)) :
    List.Forall₂ Alike lines others := by
  -- A legible line has a fact, so there is a line at its position in the other list.
  have length_le {xs ys : List AccessListLine} (legible : ∀ line ∈ xs, line.IsLegible)
      (same : ∀ i k, k.family? = some .accessLists →
        xs[i]?.elim [] (facts list i · k) = ys[i]?.elim [] (facts list i · k)) :
      xs.length ≤ ys.length := by
    by_contra longer
    have present : ys.length < xs.length := Nat.lt_of_not_le longer
    have missing := same ys.length .accessListLine rfl
    rw [List.getElem?_eq_getElem present, List.getElem?_eq_none (Nat.le_refl _), Option.elim_some,
      Option.elim_none, facts, if_pos (legible _ (List.getElem_mem present)).valid] at missing
    cases missing
  refine List.forall₂_iff_get.2 ⟨Nat.le_antisymm (length_le legible same)
    (length_le legible' fun i k own => (same i k own).symm),
    fun i first second => ?_⟩
  refine alike_of_facts list i (legible _ (List.getElem_mem first))
    (legible' _ (List.getElem_mem second)) fun k own => ?_
  have there := same i k own
  rwa [List.getElem?_eq_getElem first, List.getElem?_eq_getElem second] at there

end AccessListLine

/-! ### Devices -/

namespace Device

variable {d d' : Device} {known known' : CommunitySet} {k : FactKind}

private theorem isRow_of_mem (legible : d.HasLegibleLists)
    (sound : (d.extract known).failure = none)
    (own : k.family? = some .accessLists) :
    ∀ f ∈ (d.extract known).facts.filter fun f => f.kind = k, f.IsRow k d.hostname := by
  intro f member
  rw [filter_extract sound fun f shown => of_decide_eq_true shown ▸ own] at member
  obtain ⟨extracted, kind⟩ := List.mem_filter.1 member
  have passed := failure_family sound .accessLists
  obtain ⟨⟨name, list⟩, entry, inList⟩ := Extraction.exists_of_mem_facts_each _ extracted
  obtain ⟨⟨line, i⟩, numbered, inLine⟩ := Extraction.exists_of_mem_facts_each _ inList
  have passedLine := Extraction.failure_eq_none_of_each _
    (Extraction.failure_eq_none_of_each _ passed (name, list) entry) (line, i) numbered
  have found := List.mem_filter (p := fun f => f.kind = k).2 ⟨inLine, kind⟩
  rw [filter_accessLine own passedLine] at found
  obtain ⟨numbers, row⟩ := line.exists_row f found
  exact ⟨(name, numbers), legible.names _ entry, row⟩

private theorem accessLines_legible (legible : d.HasLegibleLists) (name : String) :
    ∀ line ∈ d.accessLines name, line.IsLegible := by
  unfold accessLines
  cases stored : d.accessLists.get? name with
  | none => exact List.forall_mem_nil _
  | some list =>
      have entry := (d.accessLists.mem_entries_iff name list).2 stored
      exact legible.lines (name, list) entry

/-- Devices under one hostname with the same text have the same facts about a list. -/
theorem factsOn_eq_of_text (hostname : d.hostname = d'.hostname) (legible : d.HasLegibleLists)
    (legible' : d'.HasLegibleLists) (sound : (d.extract known).failure = none)
    (sound' : (d'.extract known').failure = none) (own : k.family? = some .accessLists)
    (same : Fact.text k (d.extract known).facts = Fact.text k (d'.extract known').facts)
    (name : String) : d.factsOn known name k = d'.factsOn known' name k := by
  have text_filter (fs : List Fact) :
      Fact.text k (fs.filter fun f => f.kind = k) = Fact.text k fs := by
    simp only [Fact.text, List.filter_filter, Bool.and_self]
  have on (e : Device) (known : CommunitySet) : e.factsOn known name k =
      ((e.extract known).facts.filter fun f => f.kind = k).filter
        fun f => f.fields.head? = some (.name (qualify e.hostname name)) := by
    simp only [factsOn, List.filter_filter, Bool.decide_and, Bool.and_comm]
  have rows := isRow_of_mem legible sound own
  have rows' := isRow_of_mem legible' sound' own
  rw [← hostname] at rows'
  rw [on, on, ← hostname, Fact.eq_of_text_rows legible.hostname rows rows']
  rw [text_filter, text_filter, same]

/-- The facts about a list at a position are those of its line there. -/
theorem filter_factsOn (sound : (d.extract known).failure = none)
    (own : k.family? = some .accessLists) (name : String) (i : Nat) :
    (d.factsOn known name k).filter (fun f => f.number 1 = i) =
      (d.accessLines name)[i]?.elim [] (AccessListLine.facts (qualify d.hostname name) i · k) := by
  rw [factsOn_eq_lineFacts sound name (by rw [own]; decide), lineFacts, own]
  exact Fact.filter_ofLines (fun _ => AccessListLine.number_facts) _ i

/-- A device that rejects connections from `10.0.0.0/24` to one port and accepts all others. The
second line may name ports, although its protocol has none. -/
def withoutRemoteShell (ports : List Span) : Device :=
  { named "r0" "cisco" with
    accessLists := .ofList [("ACL", ⟨[
      ⟨.reject, .tcp, .ofNat 167772160, .ofNat 255, .zero, .ofNat Address.largest, [], [⟨22, 22⟩]⟩,
      ⟨.accept, .ip, .zero, .ofNat Address.largest, .zero, .ofNat Address.largest, ports, []⟩]⟩),
      ("NONE", ⟨[]⟩)] }

/-- **Access lists can be read back.** Let two devices under one hostname have legible access lists,
and let both be written without a failure. If the bins of access lists have the same texts, then the
devices have the same access lists, line by line, up to empty lists and up to the ports of protocols
without ports. -/
theorem accessLists_from_text {bins bins' : Bins} (hostname : d.hostname = d'.hostname)
    (legible : d.HasLegibleLists) (legible' : d'.HasLegibleLists)
    (written : (d.writeAlone known).1 = .ok bins) (written' : (d'.writeAlone known').1 = .ok bins')
    (same : ∀ k ∈ [FactKind.accessListLine, .accessListDenyLine, .accessListSourcePorts,
      .accessListDestinationPorts], bins.get k = bins'.get k) (name : String) :
    List.Forall₂ AccessListLine.Alike (d.accessLines name) (d'.accessLines name) := by
  have sound := failure_eq_none_of_writeAlone written
  have sound' := failure_eq_none_of_writeAlone written'
  obtain rfl := Except.ok.inj (written.symm.trans (writeAlone_of_none sound))
  obtain rfl := Except.ok.inj (written'.symm.trans (writeAlone_of_none sound'))
  refine AccessListLine.forall₂_alike (qualify d.hostname name)
    (accessLines_legible legible name) (accessLines_legible legible' name) fun i k own => ?_
  have text := same k (by cases k <;> cases own <;> decide)
  rw [Bins.get_ofFacts, Bins.get_ofFacts] at text
  have facts := factsOn_eq_of_text hostname legible legible' sound sound' own text name
  rw [← filter_factsOn sound own, facts, filter_factsOn sound' own, hostname]

theorem accessLists_from_text_withoutRemoteShell :
    (withoutRemoteShell []).HasLegibleLists ∧ (withoutRemoteShell [⟨80, 80⟩]).HasLegibleLists ∧
      ∃ bins bins', ((withoutRemoteShell []).writeAlone .empty).1 = .ok bins ∧
        ((withoutRemoteShell [⟨80, 80⟩]).writeAlone .empty).1 = .ok bins' ∧
        bins.get .accessListDestinationPorts = "r0:ACL|0|22|22\n" ∧
        ∀ name, List.Forall₂ AccessListLine.Alike ((withoutRemoteShell []).accessLines name)
          ((withoutRemoteShell [⟨80, 80⟩]).accessLines name) := by
  have hostname : (withoutRemoteShell []).hostname = (withoutRemoteShell [⟨80, 80⟩]).hostname := rfl
  have legible : (withoutRemoteShell []).HasLegibleLists := by decide +kernel
  have legible' : (withoutRemoteShell [⟨80, 80⟩]).HasLegibleLists := by decide +kernel
  have written : ((withoutRemoteShell []).writeAlone .empty).1 = _ :=
    writeAlone_of_none (by decide +kernel)
  have written' : ((withoutRemoteShell [⟨80, 80⟩]).writeAlone .empty).1 = _ :=
    writeAlone_of_none (by decide +kernel)
  refine ⟨legible, legible', _, _, written, written', by decide +kernel, fun name => ?_⟩
  exact accessLists_from_text hostname legible legible' written written' (by decide +kernel) name

end Device

end ConfigFacts
