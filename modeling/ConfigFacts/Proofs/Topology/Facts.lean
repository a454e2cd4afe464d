import ConfigFacts.Proofs.Topology.Rendering
import ConfigFacts.Proofs.Wire.Lines

/-!
# The facts of a topology

The names that are read from an edge list hold no line feeds and do not end in carriage returns, so
the fact of an edge is one line and is seen as it was written (`Edge.IsListable.shown_fact`). Hence
a topology that was read adds its edges to the lines of one bin, whatever is in the bins, and
nothing else (`Topology.ofText?_adds_lines`).
-/

namespace ConfigFacts

open ConfigFacts.EdgeList (IsName)

namespace EdgeList.IsName

variable {name : String}

/-- A name has no line feed. -/
theorem feed (named : IsName name) : '\n' ∉ name.toList :=
  fun member => (named.unbroken _ member).2.2 rfl

/-- A carriage return is a blank. -/
theorem not_return (named : IsName name) : name.toList.getLast? ≠ some '\r' :=
  fun last => absurd (named.trimsTo.last _ last) (by decide)

end EdgeList.IsName

namespace Edge

variable {e : Edge}

private theorem IsListable.isSingle_fact (listable : e.IsListable) : e.fact.IsSingle :=
  fun name listed => (listable.names name listed).feed

private theorem IsListable.shown_fact (listable : e.IsListable) : e.fact.shown = e.fact.line := by
  rw [Fact.shown_eq_line_iff]
  rintro ⟨name, last, ended⟩
  exact (listable.names name (List.mem_of_getLast? last)).not_return ended

end Edge

namespace Topology

/-- The facts of a topology are on links. -/
theorem kind_of_mem_facts {t : Topology} {f : Fact} (member : f ∈ t.facts) :
    f.kind = .samePhysicalSegment := by
  obtain ⟨e, _, rfl⟩ := List.mem_map.1 member
  rfl

theorem filter_facts (t : Topology) :
    (t.facts.filter fun f => f.kind = .samePhysicalSegment) = t.facts :=
  List.filter_eq_self.2 fun _ member => decide_eq_true (kind_of_mem_facts member)

theorem text_facts_of_ne {k : FactKind} (other : k ≠ .samePhysicalSegment) (t : Topology) :
    Fact.text k t.facts = "" :=
  Fact.text_eq_empty fun _ member same => other (same.symm.trans (kind_of_mem_facts member))

/-- **From the text of a topology to its facts nothing is lost.** When the facts of a topology that
was read are written behind whatever a history left in the bins, the lines of one bin are followed
by one line for each edge, in the order of the text, with the names of the edge as they were read.
The other bins stay as they are. -/
theorem ofText?_adds_lines {text : String} {t : Topology} (read : ofText? text = .ok t) {ι : Type}
    [DecidableEq ι] (steps : List (BinsStep ι)) (i : ι) :
    let before := BinsStep.run steps i
    let after := before.pushAll t.facts
    let segments :=
      t.edges.map fun e => e.node1 ++ "|" ++ e.int1 ++ "|" ++ e.node2 ++ "|" ++ e.int2
    after.lines .samePhysicalSegment = before.lines .samePhysicalSegment ++ segments ∧
      (after.lines .samePhysicalSegment).length =
        (before.lines .samePhysicalSegment).length + t.edges.length ∧
      after.get .samePhysicalSegment =
        before.get .samePhysicalSegment ++ String.join (segments.map fun line => line ++ "\n") ∧
      (∀ k, k ≠ .samePhysicalSegment → after.get k = before.get k) ∧
      ∀ e ∈ t.edges, ∀ name ∈ e.names,
        '\n' ∉ name.toList ∧ name.toList.getLast? ≠ some '\r' := by
  intro before after segments
  have listable := isListable_of_ofText? read
  have single : ∀ f ∈ t.facts, f.IsSingle :=
    List.forall_mem_map.2 fun e member => (listable e member).isSingle_fact
  have written : t.facts.map Fact.line = segments := List.map_map
  have shown : t.facts.map Fact.shown = t.facts.map Fact.line :=
    List.map_inj_left.2 (List.forall_mem_map.2 fun e member => (listable e member).shown_fact)
  have lines :
      after.lines .samePhysicalSegment = before.lines .samePhysicalSegment ++ segments := by
    rw [Bins.lines_pushAll (BinsStep.terminated_run steps i _) single, filter_facts, shown, written]
  refine ⟨lines, ?_, ?_, fun k other => ?_, fun e member name listed => ?_⟩
  · rw [lines, List.length_append, List.length_map]
  · rw [Bins.get_pushAll, Fact.text, filter_facts, ← written, List.map_map]
    rfl
  · rw [Bins.get_pushAll, text_facts_of_ne other, String.append_empty]
  · have named := (listable e member).names name listed
    exact ⟨named.feed, named.not_return⟩

/-- A text with a comment, a carriage return in a name and one behind it, blanks that are not ASCII
and a colon in an interface. -/
def scrawl : String :=
  "r0:e0,r1:e\r1 # core\r\n\u2003(größe : e:2,\tr2:x )"

theorem ofText?_adds_lines_scrawl :
    ofText? scrawl = .ok ⟨[⟨"r0", "e0", "r1", "e\r1"⟩, ⟨"größe", "e:2", "r2", "x"⟩]⟩ ∧
      ((BinsStep.run [.push () ⟨.samePhysicalSegment, ["left\nbehind\r"]⟩, .append () ()]
          ()).pushAll
        (facts ⟨[⟨"r0", "e0", "r1", "e\r1"⟩, ⟨"größe", "e:2", "r2", "x"⟩]⟩)).lines
          .samePhysicalSegment =
        ["left", "behind", "left", "behind", "r0|e0|r1|e\r1", "größe|e:2|r2|x"] := by
  have read : ofText? scrawl =
      .ok ⟨[⟨"r0", "e0", "r1", "e\r1"⟩, ⟨"größe", "e:2", "r2", "x"⟩]⟩ := by
    decide +kernel
  let steps : List (BinsStep Unit) :=
    [.push () ⟨.samePhysicalSegment, ["left\nbehind\r"]⟩, .append () ()]
  have before : (BinsStep.run steps ()).lines .samePhysicalSegment =
      ["left", "behind", "left", "behind"] := by
    decide +kernel
  have added := (ofText?_adds_lines read steps ()).1
  rw [before] at added
  exact ⟨read, added⟩

end Topology

end ConfigFacts
