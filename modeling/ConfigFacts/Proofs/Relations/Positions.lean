import ConfigFacts.Proofs.CommunitySet
import ConfigFacts.Proofs.Network.Facts
import ConfigFacts.Proofs.Relations.Keys

/-!
# Positions of lines

The order of its lines decides what a list accepts, and a fact says which line it is about by the
position of the line in its list. The facts of a list are therefore those of its lines, one line
after the other, and lines without facts count as well (`Device.lines_keep_positions`).
-/

namespace ConfigFacts

/-- The number that stands at a place in a fact. -/
def Fact.number (f : Fact) (i : Nat) : Nat :=
  match f.fields[i]? with
  | some (.number n) => n
  | _ => 0

/-- The facts of each kind about a line of an access list. -/
def AccessListLine.facts (list : QualifiedName) (i : Nat) (line : AccessListLine) :
    FactKind → List Fact
  | .accessListLine => if line.isValid then [Device.accessLineFact list i line] else []
  | .accessListDenyLine =>
    if line.isValid ∧ line.action = .reject then [⟨.accessListDenyLine, [list, i]⟩] else []
  | .accessListSourcePorts =>
    if line.isValid ∧ (line.protocol = .tcp ∨ line.protocol = .udp) then
      line.sourcePorts.map fun s => ⟨.accessListSourcePorts, [list, i, s.first, s.last]⟩
    else []
  | .accessListDestinationPorts =>
    if line.isValid ∧ (line.protocol = .tcp ∨ line.protocol = .udp) then
      line.destinationPorts.map fun s => ⟨.accessListDestinationPorts, [list, i, s.first, s.last]⟩
    else []
  | _ => []

def RouteFilterLine.facts (list : QualifiedName) (i : Nat) : RouteFilterLine → FactKind → List Fact
  | .lengthRange _ network length lengths, .routeFilterLine =>
    [Device.filterLineFact list i network length lengths]
  | .lengthRange .accept _ _ _, .routeFilterPermitLine => [⟨.routeFilterPermitLine, [list, i]⟩]
  | _, _ => []

def CommunityListLine.facts (known : CommunitySet) (list : QualifiedName) (i : Nat)
    (line : CommunityListLine) : FactKind → List Fact
  | .communityListLine =>
    match Pattern.ofString? line.pattern with
    | some p => (known.members.filter fun c => p.foundIn c.characters).map fun (c : Community) =>
      ⟨.communityListLine, [list, i, c]⟩
    | none => []
  | .communityListPermitLine =>
    if line.action = .accept then [⟨.communityListPermitLine, [list, i]⟩] else []
  | _ => []

/-- The facts of the lines of a list, one line after the other. -/
def Fact.ofLines {α : Type} (facts : Nat → α → List Fact) (lines : List α) : List Fact :=
  lines.zipIdx.flatMap fun (line, i) => facts i line

/-- The facts of each kind that the lists with a name should have. -/
def Device.lineFacts (d : Device) (known : CommunitySet) (name : String) (k : FactKind) :
    List Fact :=
  match k.family? with
  | some .accessLists =>
    Fact.ofLines (fun i line => line.facts (qualify d.hostname name) i k)
      ((d.accessLists.get? name).elim [] AccessList.lines)
  | some .routeFilters =>
    Fact.ofLines (fun i line => line.facts (qualify d.hostname name) i k)
      ((d.routeFilters.get? name).elim [] RouteFilter.lines)
  | some .communityLists =>
    Fact.ofLines (fun i line => line.facts known (qualify d.hostname name) i k)
      ((d.communityLists.get? name).elim [] CommunityList.lines)
  | _ => []

/-- The facts of a kind that are about the structure with a name. -/
def Device.factsOn (d : Device) (known : CommunitySet) (name : String) (k : FactKind) : List Fact :=
  (d.extract known).facts.filter fun f =>
    f.kind = k ∧ f.fields.head? = some (.name (qualify d.hostname name))

/-! ### The facts of one line -/

namespace Device

variable {list : QualifiedName} {i : Nat} {known : CommunitySet}

private theorem facts_accessLine {line : AccessListLine}
    (sound : (accessLineOf list i line).failure = none) :
    (accessLineOf list i line).facts =
      if line.isValid then
        accessLineFact list i line ::
          (if line.action = .reject then [⟨.accessListDenyLine, [list, i]⟩] else [])
          ++ portFacts list i line
      else [] := by
  unfold accessLineOf at sound ⊢
  split
  · next valid =>
      rw [if_pos valid] at sound
      rw [Extraction.facts_append_of_none _ _ sound]
      cases line.action <;> rfl
  · rfl

private theorem filter_portFacts {line : AccessListLine} (k : FactKind) :
    (portFacts list i line).filter (fun f => f.kind = k) =
      if line.protocol = .tcp ∨ line.protocol = .udp then
        (if k = .accessListDestinationPorts then
          line.destinationPorts.map fun s => ⟨k, [list, i, s.first, s.last]⟩ else [])
        ++ (if k = .accessListSourcePorts then
          line.sourcePorts.map fun s => ⟨k, [list, i, s.first, s.last]⟩ else [])
      else [] := by
  have ofKind (kind : FactKind) (spans : List Span) :
      (spans.map fun s => (⟨kind, [list, i, s.first, s.last]⟩ : Fact)).filter
          (fun f => f.kind = k) =
        if k = kind then spans.map fun s => ⟨k, [list, i, s.first, s.last]⟩ else [] := by
    by_cases same : k = kind
    · simp [same, List.filter_map, Function.comp_def]
    · simp [same, List.filter_map, Function.comp_def, Ne.symm same]
  have ported : line.protocol.hasPorts = true ↔ line.protocol = .tcp ∨ line.protocol = .udp := by
    simp only [Protocol.hasPorts, Bool.or_eq_true, decide_eq_true_eq]
  unfold portFacts
  by_cases ports : line.protocol.hasPorts
  · rw [if_pos ports, if_pos (ported.1 ports), List.filter_append, ofKind, ofKind]
  · rw [if_neg ports, if_neg (ports ∘ ported.2), List.filter_nil]

/-- The facts of a kind that a line of an access list leaves behind. -/
theorem filter_accessLine {line : AccessListLine} {k : FactKind}
    (own : k.family? = some .accessLists)
    (sound : (accessLineOf list i line).failure = none) :
    (accessLineOf list i line).facts.filter (fun f => f.kind = k) = line.facts list i k := by
  rw [facts_accessLine sound]
  by_cases valid : line.isValid
  · rw [if_pos valid, List.filter_append, filter_portFacts]
    by_cases reject : line.action = .reject
    · cases k <;> cases own <;> simp [AccessListLine.facts, accessLineFact, valid, reject]
    · cases k <;> cases own <;> simp [AccessListLine.facts, accessLineFact, valid, reject]
  · rw [if_neg valid]
    cases k <;> cases own <;> simp [AccessListLine.facts, valid]

private theorem filter_filterLine {line : RouteFilterLine} {k : FactKind}
    (own : k.family? = some .routeFilters) :
    (filterLineOf list i line).facts.filter (fun f => f.kind = k) = line.facts list i k := by
  cases line with
  | through => cases k <;> cases own <;> rfl
  | lengthRange action => cases k <;> cases own <;> cases action <;> rfl

private theorem filter_communityLine {line : CommunityListLine} {k : FactKind}
    (own : k.family? = some .communityLists)
    (sound : (communityLineOf known list i line).failure = none) :
    (communityLineOf known list i line).facts.filter (fun f => f.kind = k) =
      line.facts known list i k := by
  unfold communityLineOf CommunityListLine.matching? at *
  cases pattern : Pattern.ofString? line.pattern with
  | none =>
      rw [pattern] at sound
      cases sound
  | some p =>
      simp only [Option.map_some]
      rw [Extraction.append_of_none _ (Extraction.failure_ofFacts _), List.filter_append]
      cases action : line.action <;> cases k <;> cases own <;>
        simp [CommunityListLine.facts, Extraction.ofFacts, communityFact, communityActionOf,
          Extraction.empty, Extraction.fact, Extraction.fail, List.filter_map, Function.comp_def,
          pattern, action]

/-! ### The facts of one list -/

/-- Of all facts of named lists, those of a kind about one list are what its lines have of this
kind. -/
theorem filter_each_entries {α β : Type} {structures : SortedMap String α} {items : α → List β}
    {extract : QualifiedName → Nat → β → Extraction} {hostname name : String} {k : FactKind}
    {facts : Nat → β → List Fact}
    (keyed : ∀ q i x, ∀ f ∈ (extract q i x).facts, [Field.name q, .number i] <+: f.fields)
    (sound : (Extraction.each structures.entries fun e => .eachIndexed (items e.2) fun i x =>
      extract (qualify hostname e.1) i x).failure = none)
    (line : ∀ i x, (extract (qualify hostname name) i x).failure = none →
      (extract (qualify hostname name) i x).facts.filter (fun f => f.kind = k) = facts i x) :
    (Extraction.each structures.entries fun e => .eachIndexed (items e.2) fun i x =>
        extract (qualify hostname e.1) i x).facts.filter
        (fun f => f.kind = k ∧ f.fields.head? = some (.name (qualify hostname name))) =
      Fact.ofLines facts ((structures.get? name).elim [] items) := by
  have head {q : QualifiedName} {j : Nat} {x : β} {f : Fact} (member : f ∈ (extract q j x).facts) :
      f.fields.head? = some (.name q) := by
    obtain ⟨rest, fields⟩ := keyed q j x f member
    rw [← fields]
    rfl
  have passed := Extraction.failure_eq_none_of_each _ sound
  rw [Extraction.facts_each_of_none _ passed, List.filter_flatMap, structures.flatMap_entries]
  · cases found : structures.get? name with
    | none => rfl
    | some a =>
        have passedLines := Extraction.failure_eq_none_of_each _
          (passed (name, a) ((structures.mem_entries_iff name a).2 found))
        rw [Option.elim_some, Option.elim_some, Extraction.eachIndexed,
          Extraction.facts_each_of_none _ passedLines, List.filter_flatMap]
        refine congrArg List.flatten (List.map_congr_left ?_)
        rintro ⟨x, j⟩ numbered
        refine (List.filter_congr fun f member => ?_).trans (line j x (passedLines (x, j) numbered))
        simp only [head member, and_true]
  · intro e entry other
    refine List.filter_eq_nil_iff.2 fun f member shown => other ?_
    obtain ⟨⟨x, j⟩, _, found⟩ := Extraction.exists_of_mem_facts_each _ member
    have same := (head found).symm.trans (of_decide_eq_true shown).2
    exact (QualifiedName.mk.inj (Field.name.inj (Option.some.inj same))).2

variable {d : Device}

/-- The facts about a list are those of its lines. -/
theorem factsOn_eq_lineFacts (sound : (d.extract known).failure = none) (name : String)
    {k : FactKind}
    (ofList : k.family? ∈ [some .accessLists, some .routeFilters, some .communityLists]) :
    d.factsOn known name k = d.lineFacts known name k := by
  have ofFamily {family : Family} (own : k.family? = some family) :
      d.factsOn known name k = (family.extract d known).facts.filter fun f =>
        f.kind = k ∧ f.fields.head? = some (.name (qualify d.hostname name)) :=
    filter_extract sound fun f shown => (of_decide_eq_true shown).1 ▸ own
  simp only [List.mem_cons, List.not_mem_nil, or_false] at ofList
  rcases ofList with own | own | own
  · rw [ofFamily own, lineFacts, own]
    exact filter_each_entries Construct.key_accessLine (failure_family sound .accessLists)
      fun i line sound => filter_accessLine own sound
  · rw [ofFamily own, lineFacts, own]
    exact filter_each_entries Construct.key_filterLine (failure_family sound .routeFilters)
      fun i line _ => filter_filterLine own
  · rw [ofFamily own, lineFacts, own]
    exact filter_each_entries (Construct.key_communityLine known) (failure_family sound .communityLists)
      fun i line sound => filter_communityLine own sound

end Device

/-! ### The order of facts -/

/-- The kinds of which a line may have several facts. -/
def FactKind.repeated : List FactKind :=
  [.accessListSourcePorts, .accessListDestinationPorts, .communityListLine]

section lines

variable {list : QualifiedName} {i : Nat} {known : CommunitySet} {k : FactKind}

/-- The facts of a line of an access list have its position. -/
theorem AccessListLine.number_facts (line : AccessListLine) :
    ∀ f ∈ line.facts list i k, f.number 1 = i := by
  intro f member
  unfold facts at member
  split at member <;> try split at member
  case h_1.isTrue | h_2.isTrue =>
    rw [List.mem_singleton.1 member]
    rfl
  case h_3.isTrue | h_4.isTrue =>
    obtain ⟨_, _, rfl⟩ := List.mem_map.1 member
    rfl
  all_goals cases member

/-- The facts of a line of a route filter have its position. -/
theorem RouteFilterLine.number_facts (line : RouteFilterLine) :
    ∀ f ∈ line.facts list i k, f.number 1 = i := by
  intro f member
  unfold facts at member
  split at member
  case h_1 | h_2 =>
    rw [List.mem_singleton.1 member]
    rfl
  all_goals cases member

/-- The facts of a line of a community list have its position. -/
theorem CommunityListLine.number_facts (line : CommunityListLine) :
    ∀ f ∈ line.facts known list i k, f.number 1 = i := by
  intro f member
  unfold facts at member
  split at member
  · cases pattern : Pattern.ofString? line.pattern with
    | none =>
        rw [pattern] at member
        cases member
    | some p =>
        rw [pattern] at member
        obtain ⟨_, _, rfl⟩ := List.mem_map.1 member
        rfl
  · split at member
    · rw [List.mem_singleton.1 member]
      rfl
    · cases member
  · cases member

private theorem AccessListLine.length_facts_le (line : AccessListLine)
    (single : k ∉ FactKind.repeated) :
    (line.facts list i k).length ≤ 1 := by
  unfold facts
  split
  case h_1 | h_2 =>
    split
    · exact Nat.le_refl 1
    · exact Nat.zero_le 1
  case h_3 | h_4 => exact absurd (by decide) single
  case h_5 => exact Nat.zero_le 1

private theorem RouteFilterLine.length_facts_le (line : RouteFilterLine) :
    (line.facts list i k).length ≤ 1 := by
  unfold facts
  split
  case h_3 => exact Nat.zero_le 1
  all_goals exact Nat.le_refl 1

private theorem CommunityListLine.length_facts_le (line : CommunityListLine)
    (single : k ∉ FactKind.repeated) : (line.facts known list i k).length ≤ 1 := by
  unfold facts
  split
  · exact absurd (by decide) single
  · split
    · exact Nat.le_refl 1
    · exact Nat.zero_le 1
  · exact Nat.zero_le 1

/-- The communities of a line are listed in ascending order. -/
theorem CommunityListLine.facts_ascending (line : CommunityListLine) :
    (line.facts known list i .communityListLine).Pairwise fun f g => f.number 2 < g.number 2 := by
  unfold facts
  cases Pattern.ofString? line.pattern with
  | none => exact .nil
  | some p =>
      refine List.pairwise_map.2 ((known.members_sorted.filter _).imp fun less => ?_)
      exact UInt32.lt_iff_toNat_lt.1 (Std.compare_eq_lt.1 less)

end lines

/-- Facts of lines are in an order that follows the positions, if the facts of each line are. -/
theorem Fact.pairwise_ofLines {α : Type} {R : Fact → Fact → Prop} {facts : Nat → α → List Fact}
    (number : ∀ i x, ∀ f ∈ facts i x, f.number 1 = i) (within : ∀ i x, (facts i x).Pairwise R)
    (across : ∀ f g : Fact, f.number 1 < g.number 1 → R f g) (lines : List α) :
    (ofLines facts lines).Pairwise R := by
  have positions := Network.zipIdx_ascending lines
  refine List.pairwise_flatMap.2 ⟨fun e _ => within e.2 e.1, positions.imp ?_⟩
  intro a b less f first g second
  refine across f g ?_
  rwa [number _ _ f first, number _ _ g second]

private theorem Device.pairwise_lineFacts {R : Fact → Fact → Prop} {k : FactKind}
    (across : ∀ f g : Fact, f.number 1 < g.number 1 → R f g) {known : CommunitySet}
    (accessLine : ∀ q i (line : AccessListLine), (line.facts q i k).Pairwise R)
    (filterLine : ∀ q i (line : RouteFilterLine), (line.facts q i k).Pairwise R)
    (communityLine : ∀ q i (line : CommunityListLine), (line.facts known q i k).Pairwise R)
    (d : Device) (name : String) : (d.lineFacts known name k).Pairwise R := by
  unfold lineFacts
  split
  · exact Fact.pairwise_ofLines (fun _ => AccessListLine.number_facts) (accessLine _) across _
  · exact Fact.pairwise_ofLines (fun _ => RouteFilterLine.number_facts) (filterLine _) across _
  · exact Fact.pairwise_ofLines (fun _ => CommunityListLine.number_facts) (communityLine _) across _
  · exact .nil

/-- A device with an access list whose first line is skipped and whose second line rejects. -/
def Device.rejectingSecond : Device :=
  { named "r0" "cisco" with
    accessLists := .ofList [("ACL", ⟨[⟨.accept, .ip, .zero, .ofNat 256, .zero, .zero, [], []⟩,
      ⟨.reject, .ip, .zero, .zero, .zero, .zero, [], []⟩]⟩)] }

end ConfigFacts
