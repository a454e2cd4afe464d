import ConfigFacts.Proofs.Network.Facts
import ConfigFacts.Proofs.Ranges.Interval
import ConfigFacts.Proofs.Relations.Keys

/-!
# Ranges of access-list lines

A line of an access list whose free bits are the last ones has one fact, with a range for each of its
addresses. The fact starts the range at the address as it is configured. So the range leaves out the
matches below the address (`Device.accessLine_spans`), which there are as soon as a free bit of the
address is set (`Device.accessLine_not_always_whole`).
-/

namespace ConfigFacts.Device

variable {d : Device} {known : CommunitySet} {name : String} {i : Nat} {line : AccessListLine}

/-- The facts of lines among those of a valid line are the one fact of the line. -/
theorem eq_accessLineFact {list : QualifiedName} {f : Fact}
    (found : f ∈ (accessLineOf list i line).facts) (kind : f.kind = .accessListLine) :
    f = accessLineFact list i line := by
  unfold accessLineOf at found
  split at found
  · rcases Extraction.mem_or_mem_of_mem_facts_append found with found | port
    · rcases Extraction.mem_or_mem_of_mem_facts_append found with own | action
      · exact List.mem_singleton.1 own
      · cases mark : line.action with
        | accept | unrecognized =>
            rw [mark] at action
            cases action
        | reject =>
            rw [mark] at action
            rw [List.mem_singleton.1 action] at kind
            cases kind
    · obtain ⟨_, _, rfl⟩ | ⟨_, _, rfl⟩ : (∃ s ∈ line.destinationPorts, _ = f) ∨
          ∃ s ∈ line.sourcePorts, _ = f := by
        change f ∈ portFacts list i line at port
        unfold portFacts at port
        split at port
        · exact (List.mem_append.1 port).imp List.mem_map.1 List.mem_map.1
        · cases port
      · cases kind
      · cases kind
  · cases found

/-- The fact of a line is known by the name of its list and by its position. -/
theorem eq_accessLineFact_of_take (held : d.Holds (.accessLine name i line)) {f : Fact}
    (member : f ∈ (d.extract known).facts) (kind : f.kind = .accessListLine)
    (place : f.fields.take 2 = [.name (qualify d.hostname name), .number i]) :
    f = accessLineFact (qualify d.hostname name) i line := by
  have key : [.name (qualify d.hostname name), .number i] <+: f.fields :=
    place ▸ List.take_prefix 2 f.fields
  exact eq_accessLineFact (mem_extract_of_key held nofun member (by rw [kind]; rfl) key) kind

/-- A valid line of a device that does not fail has its fact. -/
theorem accessLineFact_mem (sound : (d.extract known).failure = none)
    (held : d.Holds (.accessLine name i line)) (valid : line.isValid = true) :
    accessLineFact (qualify d.hostname name) i line ∈ (d.extract known).facts := by
  refine mem_facts_of_holds sound held ?_
  change _ ∈ (accessLineOf _ i line).facts
  unfold accessLineOf
  rw [if_pos valid]
  exact Extraction.mem_facts_append_left
    (Extraction.mem_facts_append_left (List.mem_singleton.2 rfl))

/-- **The range of a line starts at its address.** In a device that does not fail, a valid line of an
access list has exactly one fact. Its ranges of source and destination addresses hold the addresses
that agree with the configured one on every bit that is not set in the wildcard, as far as they are
not below it. They hold all of them exactly when the configured address has no bit of the wildcard
set. -/
theorem accessLine_spans (sound : (d.extract known).failure = none)
    (held : d.Holds (.accessLine name i line)) (valid : line.isValid = true) :
    (d.writeAlone known).1 = .ok (.ofFacts (d.extract known).facts) ∧
      ∃ fact ∈ (d.extract known).facts,
        (∀ f ∈ (d.extract known).facts, (f.kind = .accessListLine ∧
          f.fields.take 2 = [.name (qualify d.hostname name), .number i]) ↔ f = fact) ∧
        fact.Spans 3 line.source line.sourceWildcard (line.source.Matches line.sourceWildcard) ∧
        fact.Spans 5 line.destination line.destinationWildcard
          (line.destination.Matches line.destinationWildcard) := by
  obtain ⟨source, destination⟩ := Bool.and_eq_true_iff.1 valid
  obtain ⟨k, free⟩ := Address.exists_free_of_trailing source
  obtain ⟨k', free'⟩ := Address.exists_free_of_trailing destination
  refine ⟨writeAlone_of_none sound, _, accessLineFact_mem sound held valid, fun f member => ?_,
    Fact.spans_of_wildcard free rfl rfl, Fact.spans_of_wildcard free' rfl rfl⟩
  constructor
  · exact fun ⟨kind, place⟩ => eq_accessLineFact_of_take held member kind place
  · rintro rfl
    exact ⟨rfl, rfl⟩

/-- A line that accepts the packets of the host `10.0.0.5` and its neighbors to everywhere. -/
def acceptingLine : AccessListLine :=
  ⟨.accept, .ip, .ofNat 167772165, .ofNat 255, .zero, .ofNat Address.largest, [], []⟩

/-- A device with one access list of this line. -/
def accepting : Device :=
  { named "r0" "cisco" with accessLists := .ofList [("ACL", ⟨[acceptingLine]⟩)] }

theorem accessLine_spans_of_accepting :
    (accepting.extract .empty).failure = none ∧
      accepting.Holds (.accessLine "ACL" 0 acceptingLine) ∧ acceptingLine.isValid = true ∧
      ∃ fact ∈ (accepting.extract .empty).facts,
        (∀ x, fact.Covers 3 x ↔ acceptingLine.source.Matches acceptingLine.sourceWildcard x ∧
          acceptingLine.source.toNat ≤ x.toNat) ∧
        ∀ x, fact.Covers 5 x := by
  have sound : (accepting.extract .empty).failure = none := by decide +kernel
  have held : accepting.Holds (.accessLine "ACL" 0 acceptingLine) := .accessLine rfl rfl
  have valid : acceptingLine.isValid = true := by decide
  obtain ⟨_, fact, member, _, source, destination⟩ := accessLine_spans sound held valid
  refine ⟨sound, held, valid, fact, member, source.covers, fun x => ?_⟩
  refine (destination.covers x).2 ⟨fun i small fixed => ?_, Nat.zero_le _⟩
  have free : ∀ i < 32, acceptingLine.destinationWildcard.bits.getLsbD i = true := by decide
  rw [free i small] at fixed
  cases fixed

/-- The range of a line can leave out addresses that the wildcard of the line matches. -/
theorem accessLine_not_always_whole :
    ¬ ∀ (d : Device) (known : CommunitySet), (d.extract known).failure = none →
      ∀ (name : String) (i : Nat) (line : AccessListLine), d.Holds (.accessLine name i line) →
        line.isValid = true → ∀ f ∈ (d.extract known).facts, f.kind = .accessListLine →
          f.fields.take 2 = [.name (qualify d.hostname name), .number i] → ∀ x,
            (f.Covers 3 x ↔ line.source.Matches line.sourceWildcard x) ∧
              (f.Covers 5 x ↔ line.destination.Matches line.destinationWildcard x) := by
  intro whole
  have sound : (accepting.extract .empty).failure = none := by decide +kernel
  have held : accepting.Holds (.accessLine "ACL" 0 acceptingLine) := .accessLine rfl rfl
  have member := accessLineFact_mem sound held (by decide)
  have below := (whole accepting .empty sound "ACL" 0 acceptingLine held (by decide) _ member rfl rfl
    (.ofNat 167772161)).1
  -- The address `10.0.0.1` matches the wildcard, and is below the address of the line.
  have matched : acceptingLine.source.Matches acceptingLine.sourceWildcard (.ofNat 167772161) := by
    unfold Address.Matches
    decide
  obtain ⟨above, _⟩ := (Fact.covers_iff rfl rfl _).1 (below.2 matched)
  exact absurd above (by decide)

end ConfigFacts.Device
