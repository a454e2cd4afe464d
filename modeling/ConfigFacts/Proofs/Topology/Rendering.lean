import ConfigFacts.Proofs.Topology.Grammar

/-!
# Rendering edge lists

A topology is written with one edge in a line, either with parentheses around it (`Edge.wrapped`)
or without (`Edge.bare`). The topologies that are read from texts are those whose names survive the
reading (`Edge.IsListable`), and each of them is read again from what is written for it
(`Topology.ofText?_render`).
-/

namespace ConfigFacts

open ConfigFacts.Text (CutInto TrimsTo)

namespace EdgeList

/-- No character of a text ends a name. -/
def Unbroken (s : List Char) : Prop :=
  ∀ c ∈ s, c ≠ ',' ∧ c ≠ '#' ∧ c ≠ '\n'

/-- A name that is the same after reading: not empty, without blanks around it and without commas,
comment marks and line feeds. -/
structure IsName (name : String) : Prop where
  filled : name.toList ≠ []
  trimmed : Text.trim name.toList = name.toList
  unbroken : Unbroken name.toList

instance (s : List Char) : Decidable (Unbroken s) :=
  List.decidableBAll _ s

instance (name : String) : Decidable (IsName name) :=
  decidable_of_iff
    (name.toList ≠ [] ∧ Text.trim name.toList = name.toList ∧ Unbroken name.toList)
    ⟨fun ⟨filled, trimmed, unbroken⟩ => ⟨filled, trimmed, unbroken⟩,
      fun named => ⟨named.filled, named.trimmed, named.unbroken⟩⟩

end EdgeList

open EdgeList (IsName IsEdge IsEndpoint IsStatement HasBody HasSides Reads Unbroken)

namespace Edge

/-- The four names of an edge. -/
def names (e : Edge) : List String :=
  [e.node1, e.int1, e.node2, e.int2]

/-- An edge that an edge list can hold: names that are the same after reading, and no colon in the
names of nodes. -/
structure IsListable (e : Edge) : Prop where
  names : ∀ name ∈ e.names, IsName name
  colon1 : ':' ∉ e.node1.toList
  colon2 : ':' ∉ e.node2.toList

instance (e : Edge) : Decidable e.IsListable :=
  decidable_of_iff
    ((∀ name ∈ e.names, IsName name) ∧ ':' ∉ e.node1.toList ∧ ':' ∉ e.node2.toList)
    ⟨fun ⟨names, colon1, colon2⟩ => ⟨names, colon1, colon2⟩,
      fun listable => ⟨listable.names, listable.colon1, listable.colon2⟩⟩

/-- An edge as a line without parentheses. -/
def bare (e : Edge) : String :=
  e.node1 ++ ":" ++ e.int1 ++ "," ++ (e.node2 ++ ":" ++ e.int2)

/-- An edge as a line with parentheses. -/
def wrapped (e : Edge) : String :=
  "(" ++ e.bare ++ ")"

private theorem toList_bare (e : Edge) : e.bare.toList =
    e.node1.toList ++ ':' :: e.int1.toList ++ ',' :: (e.node2.toList ++ ':' :: e.int2.toList) := by
  simp [bare]

private theorem toList_wrapped (e : Edge) : e.wrapped.toList = '(' :: (e.bare.toList ++ [')']) := by
  simp [wrapped]

/-- Nothing around an edge looks like a parenthesis. -/
def IsBare (e : Edge) : Prop :=
  e.node1.toList.head? ≠ some '(' ∧ e.int2.toList.getLast? ≠ some ')'

instance (e : Edge) : Decidable e.IsBare :=
  inferInstanceAs (Decidable (_ ∧ _))

end Edge

namespace Topology

/-- A text has one line for each edge. -/
def Renders (line : Edge → String) (t : Topology) (text : String) : Prop :=
  CutInto text.toList (t.edges.map fun e => (line e).toList)

/-- The text that has one line for each edge and a line feed behind each of them. -/
def render (line : Edge → String) (t : Topology) : String :=
  String.join (t.edges.map fun e => line e ++ "\n")

end Topology

namespace EdgeList

variable {s line : List Char} {e : Edge}

/-! ### Names that were read -/

/-- A part of an unbroken text is unbroken. -/
theorem Unbroken.mono {t : List Char} (unbroken : Unbroken s) (part : t ⊆ s) : Unbroken t :=
  fun c member => unbroken c (part member)

private theorem isName_of_trimsTo {t : List Char} (trimmed : TrimsTo s t) (filled : t ≠ [])
    (unbroken : Unbroken s) : IsName (String.ofList t) := by
  have chars : (String.ofList t).toList = t := String.toList_ofList
  refine ⟨?_, ?_, ?_⟩
  · rwa [chars]
  · rw [chars, Text.trimsTo_iff.1 trimmed.self]
  · rw [chars]
    exact unbroken.mono trimmed.subset

/-- The ends of an unbroken text are names, and that of the node has no colon. -/
theorem IsEndpoint.isName {ends : String × String} (read : IsEndpoint s ends)
    (unbroken : Unbroken s) : IsName ends.1 ∧ IsName ends.2 ∧ ':' ∉ ends.1.toList := by
  obtain ⟨first, left, right, named, placed⟩ := read
  have before := unbroken.mono (List.subset_append_left _ _)
  have after := unbroken.mono
    (fun _ member => List.mem_append_right _ (List.mem_cons_of_mem _ member))
  refine ⟨isName_of_trimsTo left named before, isName_of_trimsTo right placed after, ?_⟩
  rw [String.toList_ofList]
  exact fun member => first (left.subset member)

/-- The body of a statement is part of it. -/
theorem HasBody.subset {body : List Char} (inside : HasBody s body) : body ⊆ s := by
  cases inside with
  | wrapped => exact fun c member => List.mem_cons_of_mem _ (List.mem_append_left _ member)
  | bare => exact List.Subset.refl _

/-- The names of an edge that was read are the same after reading again. -/
theorem IsEdge.isListable (edge : IsEdge s e) (comment : '#' ∉ s) (feed : '\n' ∉ s) :
    e.IsListable := by
  obtain ⟨sides, one, other⟩ := edge
  have clean {side : List Char} (part : side ⊆ s) (comma : ',' ∉ side) : Unbroken side := by
    intro c member
    refine ⟨?_, ?_, ?_⟩ <;> rintro rfl
    · exact comma member
    · exact comment (part member)
    · exact feed (part member)
  have body := sides.body.subset
  have left := clean (fun c member => body (List.mem_append_left _ member)) sides.left
  have right := clean
    (fun c member => body (List.mem_append_right _ (List.mem_cons_of_mem _ member))) sides.right
  obtain ⟨node1, int1, colon1⟩ := one.isName left
  obtain ⟨node2, int2, colon2⟩ := other.isName right
  refine ⟨?_, colon1, colon2⟩
  simp only [Edge.names, List.forall_mem_cons]
  exact ⟨node1, int1, node2, int2, List.forall_mem_nil _⟩

/-- Reading a statement does not make its edge longer. -/
theorem IsEdge.length_le (edge : IsEdge s e) :
    ∃ body, HasBody s body ∧ e.bare.toList.length ≤ body.length := by
  obtain ⟨⟨inside, -, -⟩, ⟨-, left, right, -, -⟩, ⟨-, left', right', -, -⟩⟩ := edge
  refine ⟨_, inside, ?_⟩
  have := left.length_le
  have := right.length_le
  have := left'.length_le
  have := right'.length_le
  simp only [Edge.toList_bare, String.toList_ofList, List.length_append, List.length_cons]
  omega

/-- A statement is part of its line. -/
theorem IsStatement.subset (statement : IsStatement line s) : s ⊆ line := by
  cases statement with
  | whole _ trimmed => exact trimmed.subset
  | commented _ trimmed => exact fun c member => List.mem_append_left _ (trimmed.subset member)

private theorem IsStatement.uncommented (statement : IsStatement line s) : '#' ∉ s := by
  cases statement with
  | whole bare trimmed | commented bare trimmed => exact fun member => bare (trimmed.subset member)

private theorem Reads.isListable {lines : List (List Char)} {edges : List Edge}
    (sound : Reads lines edges)
    (single : ∀ line ∈ lines, '\n' ∉ line) : ∀ e ∈ edges, e.IsListable := by
  induction sound with
  | nil => exact List.forall_mem_nil _
  | skip _ _ ih => exact ih (List.forall_mem_cons.1 single).2
  | edge statement _ edge _ ih =>
      obtain ⟨first, later⟩ := List.forall_mem_cons.1 single
      refine List.forall_mem_cons.2 ⟨edge.isListable statement.uncommented ?_, ih later⟩
      exact fun member => first (statement.subset member)

/-! ### Lines that are written -/

/-- A line that is a statement without anything around it. -/
structure IsClean (line : List Char) : Prop where
  single : '\n' ∉ line
  uncommented : '#' ∉ line
  trimmed : TrimsTo line line
  filled : line ≠ []

/-- A clean line is its own statement and that of no other line. -/
theorem IsClean.isStatement_iff (clean : IsClean line) : IsStatement line s ↔ line = s := by
  rw [EdgeList.isStatement_iff, statement_of_notMem clean.uncommented,
    Text.trimsTo_iff.1 clean.trimmed]

/-- A clean line does not end with a carriage return. -/
theorem IsClean.not_return (clean : IsClean line) : line.getLast? ≠ some '\r' :=
  fun last => absurd (clean.trimmed.last _ last) (by decide)

variable {edges : List Edge} {write : Edge → List Char}

/-- One clean line for each edge is read as these edges when each line is its edge. -/
theorem reads_map_iff (clean : ∀ e ∈ edges, IsClean (write e)) :
    Reads (edges.map write) edges ↔ ∀ e ∈ edges, IsEdge (write e) e := by
  induction edges with
  | nil => exact ⟨fun _ => List.forall_mem_nil _, fun _ => .nil⟩
  | cons e edges ih =>
      obtain ⟨first, later⟩ := List.forall_mem_cons.1 clean
      rw [List.map_cons, List.forall_mem_cons, ← ih later]
      constructor
      · intro read
        cases read with
        | skip empty => exact absurd (first.isStatement_iff.1 empty) first.filled
        | edge statement _ edge behind =>
            obtain rfl := first.isStatement_iff.1 statement
            exact ⟨edge, behind⟩
      · rintro ⟨edge, behind⟩
        exact .edge (first.isStatement_iff.2 rfl) first.filled edge behind

/-- There is nothing to trim off a name. -/
theorem IsName.trimsTo {name : String} (named : IsName name) : TrimsTo name.toList name.toList :=
  Text.trimsTo_iff.2 named.trimmed

/-- Two names around a colon are an end of an edge, and nothing in it ends a name. -/
theorem isEndpoint_of_isName {node interface : String} (named : IsName node)
    (placed : IsName interface) (first : ':' ∉ node.toList) :
    IsEndpoint (node.toList ++ ':' :: interface.toList) (node, interface) ∧
      Unbroken (node.toList ++ ':' :: interface.toList) := by
  have ends := IsEndpoint.intro first named.trimsTo placed.trimsTo named.filled placed.filled
  rw [String.ofList_toList, String.ofList_toList] at ends
  refine ⟨ends, List.forall_mem_append.2 ⟨named.unbroken, List.forall_mem_cons.2 ⟨?_, ?_⟩⟩⟩
  · decide
  · exact placed.unbroken

end EdgeList

namespace Edge

open EdgeList

variable {e : Edge}

/-- The line of a listable edge falls into two ends. -/
theorem IsListable.exists_sides (listable : e.IsListable) :
    ∃ first second, e.bare.toList = first ++ ',' :: second ∧ Unbroken first ∧ Unbroken second ∧
      IsEndpoint first (e.node1, e.int1) ∧ IsEndpoint second (e.node2, e.int2) := by
  have names := listable.names
  simp only [Edge.names, List.forall_mem_cons] at names
  obtain ⟨node1, int1, node2, int2, -⟩ := names
  obtain ⟨one, left⟩ := isEndpoint_of_isName node1 int1 listable.colon1
  obtain ⟨other, right⟩ := isEndpoint_of_isName node2 int2 listable.colon2
  exact ⟨_, _, e.toList_bare, left, right, one, other⟩

/-- A listable edge is read from any text with its bare form as the body. -/
theorem IsListable.isEdge {s : List Char} (listable : e.IsListable)
    (inside : HasBody s e.bare.toList) : IsEdge s e := by
  obtain ⟨first, second, split, left, right, one, other⟩ := listable.exists_sides
  rw [split] at inside
  exact .intro ⟨inside, fun comma => (left _ comma).1 rfl, fun comma => (right _ comma).1 rfl⟩
    one other

/-- A listable edge starts with its first node and ends with its second interface. -/
theorem IsListable.ends_bare (listable : e.IsListable) :
    e.bare.toList.head? = e.node1.toList.head? ∧
      e.bare.toList.getLast? = e.int2.toList.getLast? := by
  have node := (listable.names e.node1 (by simp [Edge.names])).filled
  have interface := (listable.names e.int2 (by simp [Edge.names])).filled
  obtain ⟨c, front, start⟩ := List.exists_cons_of_ne_nil node
  obtain ⟨d, back, stop⟩ := List.exists_cons_of_ne_nil interface
  rw [toList_bare, start, stop]
  simp [List.getLast?_append, List.getLast?_cons]

private theorem IsListable.isClean_bare (listable : e.IsListable) : IsClean e.bare.toList := by
  obtain ⟨start, stop⟩ := listable.ends_bare
  have node := (listable.names e.node1 (by simp [Edge.names])).trimsTo
  have interface := (listable.names e.int2 (by simp [Edge.names])).trimsTo
  obtain ⟨first, second, split, left, right, -⟩ := listable.exists_sides
  have marks : ∀ c ∈ e.bare.toList, c ≠ '#' ∧ c ≠ '\n' := by
    rw [split]
    refine List.forall_mem_append.2 ⟨fun c member => (left c member).2, ?_⟩
    exact List.forall_mem_cons.2 ⟨by decide, fun c member => (right c member).2⟩
  refine ⟨fun feed => (marks _ feed).2 rfl, fun comment => (marks _ comment).1 rfl,
    ⟨⟨[], [], by simp, List.forall_mem_nil _, List.forall_mem_nil _⟩, ?_, ?_⟩, ?_⟩
  · rw [start]
    exact node.first
  · rw [stop]
    exact interface.last
  · rw [split]
    simp

private theorem IsListable.isClean_wrapped (listable : e.IsListable) :
    IsClean e.wrapped.toList := by
  obtain ⟨single, uncommented, -⟩ := listable.isClean_bare
  have last : e.wrapped.toList.getLast? = some ')' := by
    rw [toList_wrapped, ← List.cons_append, List.getLast?_concat]
  refine ⟨?_, ?_, ⟨⟨[], [], by simp, List.forall_mem_nil _, List.forall_mem_nil _⟩, ?_, ?_⟩, ?_⟩
  · simpa [toList_wrapped] using single
  · simpa [toList_wrapped] using uncommented
  · rw [toList_wrapped]
    rintro _ ⟨⟩
    decide
  · rw [last]
    rintro _ ⟨⟩
    decide
  · simp [toList_wrapped]

private theorem IsListable.isEdge_wrapped (listable : e.IsListable) :
    IsEdge e.wrapped.toList e := by
  refine listable.isEdge ?_
  rw [toList_wrapped]
  exact .wrapped _

/-- Without parentheses a listable edge is read from its line when nothing around it looks like
parentheses. -/
theorem IsListable.isEdge_bare_iff (listable : e.IsListable) :
    IsEdge e.bare.toList e ↔ e.IsBare := by
  obtain ⟨start, stop⟩ := listable.ends_bare
  unfold IsBare
  rw [← start, ← stop]
  constructor
  · intro edge
    obtain ⟨body, inside, shorter⟩ := edge.length_le
    generalize e.bare.toList = line at inside shorter
    cases inside with
    | wrapped =>
        simp only [List.length_cons, List.length_append, List.length_nil] at shorter
        omega
    | bare start stop => exact ⟨start, stop⟩
  · rintro ⟨start, stop⟩
    exact listable.isEdge (.bare start stop)

end Edge

namespace Topology

variable {t : Topology} {text : String} {line : Edge → String}

private theorem ofText?_eq_ok_iff :
    ofText? text = .ok t ↔ Reads (Text.lines text.toList) t.edges := by
  rw [← EdgeList.edges?_eq_ok_iff, ofText?]
  cases t
  cases EdgeList.edges? 1 (Text.lines text.toList) <;> simp [Except.map]

/-- A topology that was read can be listed. -/
theorem isListable_of_ofText? (read : ofText? text = .ok t) : ∀ e ∈ t.edges, e.IsListable :=
  (ofText?_eq_ok_iff.1 read).isListable (Text.cutInto_lines text.toList).notMem

/-- A text with a clean line for each edge is read as these edges when each line is its edge. -/
theorem Renders.ofText?_eq_ok_iff (renders : t.Renders line text)
    (clean : ∀ e ∈ t.edges, EdgeList.IsClean (line e).toList) :
    ofText? text = .ok t ↔ ∀ e ∈ t.edges, IsEdge (line e).toList e := by
  rw [Topology.ofText?_eq_ok_iff, Text.cutInto_iff.1 renders, EdgeList.reads_map_iff clean]

private theorem renders_render (clean : ∀ e ∈ t.edges, EdgeList.IsClean (line e).toList) :
    t.Renders line (t.render line) := by
  have written : (t.render line).toList =
      (t.edges.map fun e => (line e).toList).flatMap fun s => s ++ ['\n'] := by
    rw [render, String.toList_join, List.flatMap_map, List.flatMap_map]
    simp only [String.toList_append]
    rfl
  have single : ∀ s ∈ t.edges.map fun e => (line e).toList, '\n' ∉ s :=
    List.forall_mem_map.2 fun e member => (clean e member).single
  have bare : ∀ s ∈ t.edges.map fun e => (line e).toList, Text.dropReturn s = id s :=
    List.forall_mem_map.2 fun e member => Text.dropReturn_of_bare (clean e member).not_return
  rw [Renders, Text.cutInto_iff, written, Text.lines_flatMap single, List.map_congr_left bare,
    List.map_id]

/-- **Rendering and reading edge lists are inverse.** The topologies that are read from texts are
those of listable edges. Such a topology is read from every text that has one line with parentheses
for each edge, among them the one that is written for it. Without parentheses it is read when, and
only when, nothing around an edge looks like parentheses. So what is written for a topology that was
read is read as this topology again. -/
theorem ofText?_render (t : Topology) :
    ((∃ text, ofText? text = .ok t) ↔ ∀ e ∈ t.edges, e.IsListable) ∧
      ((∀ e ∈ t.edges, e.IsListable) →
        (t.Renders Edge.wrapped (t.render Edge.wrapped) ∧
          ∀ text, t.Renders Edge.wrapped text → ofText? text = .ok t) ∧
        t.Renders Edge.bare (t.render Edge.bare) ∧
          ∀ text, t.Renders Edge.bare text →
            (ofText? text = .ok t ↔ ∀ e ∈ t.edges, e.IsBare)) ∧
      ∀ text, ofText? text = .ok t → ofText? (t.render Edge.wrapped) = .ok t := by
  have rendersWrapped (listable : ∀ e ∈ t.edges, e.IsListable) :=
    renders_render fun e member => (listable e member).isClean_wrapped
  have rendersBare (listable : ∀ e ∈ t.edges, e.IsListable) :=
    renders_render fun e member => (listable e member).isClean_bare
  have wrapped (listable : ∀ e ∈ t.edges, e.IsListable) (text : String)
      (renders : t.Renders Edge.wrapped text) : ofText? text = .ok t :=
    (renders.ofText?_eq_ok_iff fun e member => (listable e member).isClean_wrapped).2
      fun e member => (listable e member).isEdge_wrapped
  have bare (listable : ∀ e ∈ t.edges, e.IsListable) (text : String)
      (renders : t.Renders Edge.bare text) : ofText? text = .ok t ↔ ∀ e ∈ t.edges, e.IsBare := by
    rw [renders.ofText?_eq_ok_iff fun e member => (listable e member).isClean_bare]
    exact forall₂_congr fun e member => (listable e member).isEdge_bare_iff
  refine ⟨⟨fun ⟨text, read⟩ => isListable_of_ofText? read, fun listable => ?_⟩,
    fun listable => ⟨⟨rendersWrapped listable, wrapped listable⟩, rendersBare listable,
      bare listable⟩, fun text read => ?_⟩
  · exact ⟨_, wrapped listable _ (rendersWrapped listable)⟩
  · have listable := isListable_of_ofText? read
    exact wrapped listable _ (rendersWrapped listable)

/-- Blanks, carriage returns, colons and parentheses inside of names, and names that are not
ASCII. -/
def crossLinks : Topology :=
  ⟨[⟨"r 0", ":e0", "(größe", "e\r1:2"⟩, ⟨"r\t1)", "(x)", "r0", "("⟩]⟩

theorem ofText?_render_crossLinks :
    (∀ e ∈ crossLinks.edges, e.IsListable) ∧ (∀ e ∈ crossLinks.edges, e.IsBare) ∧
      ofText? "(r 0::e0,(größe:e\r1:2)\r\n(r\t1):(x),r0:()" = .ok crossLinks ∧
      ofText? (crossLinks.render Edge.bare) = .ok crossLinks ∧
      ofText? (crossLinks.render Edge.wrapped) = .ok crossLinks := by
  have listable : ∀ e ∈ crossLinks.edges, e.IsListable := by decide +kernel
  have isBare : ∀ e ∈ crossLinks.edges, e.IsBare := by decide +kernel
  have renders : crossLinks.Renders Edge.wrapped
      "(r 0::e0,(größe:e\r1:2)\r\n(r\t1):(x),r0:()" :=
    Text.cutInto_iff.2 (by decide +kernel)
  obtain ⟨-, written, again⟩ := ofText?_render crossLinks
  obtain ⟨⟨-, wrapped⟩, rendersBare, bare⟩ := written listable
  have read := (bare _ rendersBare).2 isBare
  exact ⟨listable, isBare, wrapped _ renders, read, again _ read⟩

end Topology

end ConfigFacts
