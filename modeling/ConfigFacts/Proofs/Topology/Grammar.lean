import ConfigFacts.Proofs.Text.Lines
import ConfigFacts.Proofs.Text.Trim
import ConfigFacts.Topology.EdgeList
import Mathlib.Data.List.TakeDrop

/-!
# The grammar of edge lists

A statement is an edge when its parentheses are balanced and one comma in it separates two ends,
each with a node and an interface around its first colon (`EdgeList.IsEdge`). Otherwise something is
wrong with it, and what is reported is decided from the outside in (`EdgeList.IsFault`). A text is
read line by line up to the first statement that is no edge (`Topology.ofText?_reads`).
-/

namespace ConfigFacts

namespace EdgeList

open ConfigFacts.Text (AllBlank TrimsTo)

/-- What is left of a line without its comment and the blanks around it. -/
inductive IsStatement : List Char → List Char → Prop where
  | whole {line s : List Char} (bare : '#' ∉ line) (trimmed : TrimsTo line s) : IsStatement line s
  | commented {code comment s : List Char} (bare : '#' ∉ code) (trimmed : TrimsTo code s) :
    IsStatement (code ++ '#' :: comment) s

/-- The end of an edge: a node and an interface around its first colon. -/
inductive IsEndpoint : List Char → String × String → Prop where
  | intro {before after node interface : List Char} (first : ':' ∉ before)
    (left : TrimsTo before node) (right : TrimsTo after interface) (named : node ≠ [])
    (placed : interface ≠ []) :
    IsEndpoint (before ++ ':' :: after) (String.ofList node, String.ofList interface)

/-- What is wrong with an end. -/
inductive IsEndpointFault : List Char → EdgeFault → Prop where
  | colon {s : List Char} (absent : ':' ∉ s) : IsEndpointFault s .interface
  | node {before after : List Char} (first : ':' ∉ before) (blank : AllBlank before) :
    IsEndpointFault (before ++ ':' :: after) .node
  | interface {before after : List Char} (first : ':' ∉ before) (named : ¬AllBlank before)
    (blank : AllBlank after) : IsEndpointFault (before ++ ':' :: after) .interface

/-- A statement has only one of two parentheses. -/
def Unbalanced (s : List Char) : Prop :=
  s.head? = some '(' ↔ s.getLast? ≠ some ')'

/-- The inside of the parentheses around a statement, or all of it without any. -/
inductive HasBody : List Char → List Char → Prop where
  | wrapped (inside : List Char) : HasBody ('(' :: (inside ++ [')'])) inside
  | bare {s : List Char} (start : s.head? ≠ some '(') (stop : s.getLast? ≠ some ')') : HasBody s s

/-- The two sides of the only comma of a statement. -/
structure HasSides (s first second : List Char) : Prop where
  body : HasBody s (first ++ ',' :: second)
  left : ',' ∉ first
  right : ',' ∉ second

/-- A statement with an end on each side of its comma. -/
inductive IsEdge : List Char → Edge → Prop where
  | intro {s first second : List Char} {node1 int1 node2 int2 : String}
    (sides : HasSides s first second) (one : IsEndpoint first (node1, int1))
    (other : IsEndpoint second (node2, int2)) : IsEdge s ⟨node1, int1, node2, int2⟩

/-- What is wrong with a statement: its parentheses, or else its commas, or else its first end, or
else its second end. -/
inductive IsFault : List Char → EdgeFault → Prop where
  | parentheses {s : List Char} (unbalanced : Unbalanced s) : IsFault s .parentheses
  | commas {s body : List Char} (inside : HasBody s body) (several : body.count ',' ≠ 1) :
    IsFault s (.ends (String.ofList s))
  | first {s first second : List Char} {fault : EdgeFault} (sides : HasSides s first second)
    (wrong : IsEndpointFault first fault) : IsFault s fault
  | second {s first second : List Char} {e : String × String} {fault : EdgeFault}
    (sides : HasSides s first second) (sound : IsEndpoint first e)
    (wrong : IsEndpointFault second fault) : IsFault s fault

/-- The edges of lines of which each is an edge or holds nothing. -/
inductive Reads : List (List Char) → List Edge → Prop where
  | nil : Reads [] []
  | skip {line : List Char} {lines : List (List Char)} {edges : List Edge}
    (empty : IsStatement line []) (behind : Reads lines edges) : Reads (line :: lines) edges
  | edge {line s : List Char} {lines : List (List Char)} {e : Edge} {edges : List Edge}
    (statement : IsStatement line s) (filled : s ≠ []) (edge : IsEdge s e)
    (behind : Reads lines edges) : Reads (line :: lines) (e :: edges)

/-- The first line that holds something and is no edge. -/
inductive FailsAt : List (List Char) → EdgeListError → Prop where
  | intro {front back : List (List Char)} {line s : List Char} {edges : List Edge}
    {fault : EdgeFault} (sound : Reads front edges) (statement : IsStatement line s)
    (filled : s ≠ []) (wrong : IsFault s fault) :
    FailsAt (front ++ line :: back) ⟨front.length + 1, fault⟩

variable {s t line : List Char}

/-! ### Statements -/

/-- A line without a comment is its own statement, but for blanks around it. -/
theorem statement_of_notMem (bare : '#' ∉ line) : statement line = Text.trim line := by
  unfold statement
  rw [List.takeWhile_eq_self_iff.2]
  exact fun c member => bne_iff_ne.2 fun same => bare (same ▸ member)

private theorem statement_append_cons {code : List Char} (bare : '#' ∉ code) (comment : List Char) :
    statement (code ++ '#' :: comment) = Text.trim code := by
  unfold statement
  rw [List.takeWhile_append_of_pos, List.takeWhile_cons_of_neg (by decide), List.append_nil]
  exact fun c member => bne_iff_ne.2 fun same => bare (same ▸ member)

/-- The statement of a line in the grammar is what the reader leaves of it. -/
theorem isStatement_iff : IsStatement line s ↔ statement line = s := by
  constructor
  · rintro (⟨bare, trimmed⟩ | ⟨bare, trimmed⟩)
    · rw [statement_of_notMem bare, Text.trimsTo_iff.1 trimmed]
    · rw [statement_append_cons bare, Text.trimsTo_iff.1 trimmed]
  · rintro rfl
    by_cases commented : '#' ∈ line
    · obtain ⟨code, comment, rfl, bare⟩ := List.eq_append_cons_of_mem commented
      rw [statement_append_cons bare]
      exact .commented bare (Text.trimsTo_trim code)
    · rw [statement_of_notMem commented]
      exact .whole commented (Text.trimsTo_trim line)

/-! ### Ends -/

private theorem endpoint?_congr (same : Text.trim s = Text.trim t) : endpoint? s = endpoint? t := by
  unfold endpoint?
  rw [same]

private theorem endpoint?_of_notMem (absent : ':' ∉ s) : endpoint? s = .error .interface := by
  have absent' : ∀ c ∈ Text.trim s, (c != ':') = true := by
    intro c member
    have count := Text.count_trim (c := ':') (by decide) s
    rw [List.count_eq_zero.2 absent, List.count_eq_zero] at count
    exact bne_iff_ne.2 fun same => count (same ▸ member)
  unfold endpoint?
  rw [List.span_eq_takeWhile_dropWhile, List.dropWhile_eq_nil_iff.2 absent']

private theorem endpoint?_append_cons {before : List Char} (first : ':' ∉ before)
    (after : List Char) :
    endpoint? (before ++ ':' :: after) =
      if Text.trim before = [] then .error .node
      else if Text.trim after = [] then .error .interface
      else .ok (String.ofList (Text.trim before), String.ofList (Text.trim after)) := by
  have parts : (Text.trim (before ++ ':' :: after)).span (· != ':') =
      (Text.trimStart before, ':' :: Text.trimEnd after) := by
    have first' : ∀ c ∈ Text.trimStart before, (c != ':') = true := fun c member =>
      bne_iff_ne.2 fun same => first (List.dropWhile_subset _ (same ▸ member))
    rw [Text.trim_append_cons (by decide), List.span_eq_takeWhile_dropWhile,
      List.takeWhile_append_of_pos first', List.dropWhile_append_of_pos first',
      List.takeWhile_cons_of_neg (by decide), List.dropWhile_cons_of_neg (by decide),
      List.append_nil]
  unfold endpoint?
  rw [parts]
  simp only [Text.trim_trimStart, Text.trim_trimEnd, List.isEmpty_iff]

/-- The ends that are read are those of the grammar. -/
theorem endpoint?_eq_ok_iff {e : String × String} : endpoint? s = .ok e ↔ IsEndpoint s e := by
  constructor
  · intro read
    by_cases colon : ':' ∈ s
    · obtain ⟨before, after, rfl, first⟩ := List.eq_append_cons_of_mem colon
      rw [endpoint?_append_cons first] at read
      split at read
      · cases read
      · next named =>
          split at read
          · cases read
          · next placed =>
              cases read
              exact .intro first (Text.trimsTo_trim before) (Text.trimsTo_trim after) named placed
    · rw [endpoint?_of_notMem colon] at read
      cases read
  · rintro ⟨first, left, right, named, placed⟩
    rw [Text.trimsTo_iff] at left right
    rw [endpoint?_append_cons first, left, right, if_neg named, if_neg placed]

/-- The faults of ends are those of the grammar. -/
theorem endpoint?_eq_error_iff {fault : EdgeFault} :
    endpoint? s = .error fault ↔ IsEndpointFault s fault := by
  constructor
  · intro reported
    by_cases colon : ':' ∈ s
    · obtain ⟨before, after, rfl, first⟩ := List.eq_append_cons_of_mem colon
      rw [endpoint?_append_cons first] at reported
      split at reported
      · next blank =>
          cases reported
          exact .node first (Text.trim_eq_nil_iff.1 blank)
      · next named =>
          split at reported
          · next blank =>
              cases reported
              exact .interface first (named ∘ Text.trim_eq_nil_iff.2) (Text.trim_eq_nil_iff.1 blank)
          · cases reported
    · rw [endpoint?_of_notMem colon] at reported
      cases reported
      exact .colon colon
  · intro wrong
    cases wrong with
    | colon absent => exact endpoint?_of_notMem absent
    | node first blank => rw [endpoint?_append_cons first, if_pos (Text.trim_eq_nil_iff.2 blank)]
    | interface first named blank =>
        rw [endpoint?_append_cons first, if_neg (named ∘ Text.trim_eq_nil_iff.1),
          if_pos (Text.trim_eq_nil_iff.2 blank)]

/-! ### Edges -/

private theorem body?_of_unbalanced (unbalanced : Unbalanced s) :
    body? s = .error .parentheses := by
  unfold body?
  by_cases start : s.head? = some '('
  · rw [if_pos start, if_neg (unbalanced.1 start)]
  · rw [if_neg start, if_pos (not_not.1 (start ∘ unbalanced.2))]

private theorem exists_body (balanced : ¬Unbalanced s) : ∃ body, HasBody s body := by
  by_cases start : s.head? = some '('
  · by_cases stop : s.getLast? = some ')'
    · obtain ⟨rest, rfl⟩ := List.head?_eq_some_iff.1 start
      obtain ⟨front, last⟩ := List.getLast?_eq_some_iff.1 stop
      cases front with
      | nil => cases last
      | cons c inside =>
          cases last
          exact ⟨inside, .wrapped inside⟩
    · exact absurd ⟨fun _ => stop, fun _ => start⟩ balanced
  · by_cases stop : s.getLast? = some ')'
    · exact absurd ⟨fun opened => absurd opened start, fun open' => absurd stop open'⟩ balanced
    · exact ⟨s, .bare start stop⟩

private theorem body?_of_hasBody {body : List Char} (inside : HasBody s body) :
    body? s = .ok body ∨ body? s = .ok (Text.trim body) := by
  cases inside with
  | wrapped =>
      right
      unfold body?
      rw [List.head?_cons, if_pos rfl, ← List.cons_append, List.getLast?_concat, if_pos rfl,
        List.cons_append, List.drop_succ_cons, List.drop_zero, List.dropLast_concat]
  | bare start stop =>
      left
      unfold body?
      rw [if_neg start, if_neg stop]

/-- An edge is read from its first and then its second end. -/
def ofEnds? (first second : List Char) : Except EdgeFault Edge := do
  let (node1, int1) ← endpoint? first
  let (node2, int2) ← endpoint? second
  return ⟨node1, int1, node2, int2⟩

private theorem edge?_of_pair {first second : List Char}
    (read : body? s = .ok (first ++ ',' :: second))
    (left : ',' ∉ first) (right : ',' ∉ second) : edge? s = ofEnds? first second := by
  have pieces : (first ++ ',' :: second).splitOn ',' = [first, second] := by
    rw [Text.splitOn_append_cons left, List.splitOn_eq_singleton right]
  unfold edge?
  rw [read]
  simp only [bind, Except.bind, pieces]
  rfl

private theorem edge?_of_sides {first second : List Char} (sides : HasSides s first second) :
    edge? s = ofEnds? first second := by
  rcases body?_of_hasBody sides.body with read | read
  · exact edge?_of_pair read sides.left sides.right
  · -- Trimming the body cuts the outer ends of the two sides, which their own trimming does again.
    rw [Text.trim_append_cons (by decide)] at read
    have left := fun member => sides.left (List.dropWhile_subset Text.isBlank member)
    have right := fun member =>
      sides.right ((List.rdropWhile_prefix Text.isBlank second).subset member)
    rw [edge?_of_pair read left right, ofEnds?, ofEnds?,
      endpoint?_congr (Text.trim_trimStart first), endpoint?_congr (Text.trim_trimEnd second)]

private theorem edge?_of_commas {body : List Char} (inside : HasBody s body)
    (several : body.count ',' ≠ 1) : edge? s = .error (.ends (String.ofList s)) := by
  -- Trimming the body keeps its commas, so there is no difference between the two readings.
  have wrong {cut : List Char} (read : body? s = .ok cut) (count : cut.count ',' = body.count ',') :
      edge? s = .error (.ends (String.ofList s)) := by
    have pieces := Text.length_splitOn ',' cut
    unfold edge?
    rw [read]
    simp only [bind, Except.bind]
    split
    · next pair =>
        rw [pair, count] at pieces
        exact absurd (Nat.succ.inj pieces).symm several
    · rfl
  rcases body?_of_hasBody inside with read | read
  · exact wrong read rfl
  · exact wrong read (Text.count_trim (by decide) body)

/-- A statement is unbalanced, or its body has a wrong number of commas, or two sides. -/
theorem unbalanced_or_commas_or_sides (s : List Char) :
    Unbalanced s ∨ (∃ body, HasBody s body ∧ body.count ',' ≠ 1) ∨
      ∃ first second, HasSides s first second := by
  by_cases unbalanced : Unbalanced s
  · exact .inl unbalanced
  · obtain ⟨body, inside⟩ := exists_body unbalanced
    by_cases single : body.count ',' = 1
    · have member : ',' ∈ body := List.count_pos_iff.1 (single ▸ Nat.one_pos)
      obtain ⟨first, second, rfl, left⟩ := List.eq_append_cons_of_mem member
      rw [List.count_append, List.count_cons_self, List.count_eq_zero.2 left,
        Nat.zero_add] at single
      have right := List.count_eq_zero.1 (Nat.succ.inj single)
      exact .inr (.inr ⟨first, second, inside, left, right⟩)
    · exact .inr (.inl ⟨body, inside, single⟩)

private theorem ofEnds?_eq_ok_iff {first second : List Char} {e : Edge} :
    ofEnds? first second = .ok e ↔
      IsEndpoint first (e.node1, e.int1) ∧ IsEndpoint second (e.node2, e.int2) := by
  rw [← endpoint?_eq_ok_iff, ← endpoint?_eq_ok_iff, ofEnds?]
  cases endpoint? first with
  | error => simp [bind, Except.bind]
  | ok one =>
      cases endpoint? second with
      | error => simp [bind, Except.bind]
      | ok other =>
          cases e
          simp [bind, Except.bind, pure, Except.pure, Prod.ext_iff, and_assoc]

private theorem ofEnds?_eq_error_iff {first second : List Char} {fault : EdgeFault} :
    ofEnds? first second = .error fault ↔
      IsEndpointFault first fault ∨ (∃ e, IsEndpoint first e) ∧ IsEndpointFault second fault := by
  simp only [← endpoint?_eq_error_iff, ← endpoint?_eq_ok_iff, ofEnds?]
  cases endpoint? first with
  | error => simp [bind, Except.bind]
  | ok one =>
      cases endpoint? second with
      | error => simp [bind, Except.bind]
      | ok other => simp [bind, Except.bind, pure, Except.pure]

/-- The edges that are read are those of the grammar. -/
theorem edge?_eq_ok_iff {e : Edge} : edge? s = .ok e ↔ IsEdge s e := by
  constructor
  · intro read
    rcases unbalanced_or_commas_or_sides s with unbalanced | ⟨body, inside, several⟩ |
      ⟨first, second, sides⟩
    · rw [edge?, body?_of_unbalanced unbalanced] at read
      cases read
    · rw [edge?_of_commas inside several] at read
      cases read
    · rw [edge?_of_sides sides] at read
      obtain ⟨one, other⟩ := ofEnds?_eq_ok_iff.1 read
      exact .intro sides one other
  · rintro ⟨sides, one, other⟩
    rw [edge?_of_sides sides]
    exact ofEnds?_eq_ok_iff.2 ⟨one, other⟩

/-- The faults of edges are those of the grammar. -/
theorem edge?_eq_error_iff {fault : EdgeFault} : edge? s = .error fault ↔ IsFault s fault := by
  constructor
  · intro reported
    rcases unbalanced_or_commas_or_sides s with unbalanced | ⟨body, inside, several⟩ |
      ⟨first, second, sides⟩
    · rw [edge?, body?_of_unbalanced unbalanced] at reported
      cases reported
      exact .parentheses unbalanced
    · rw [edge?_of_commas inside several] at reported
      cases reported
      exact .commas inside several
    · rw [edge?_of_sides sides] at reported
      rcases ofEnds?_eq_error_iff.1 reported with wrong | ⟨⟨e, sound⟩, wrong⟩
      · exact .first sides wrong
      · exact .second sides sound wrong
  · intro wrong
    cases wrong with
    | parentheses unbalanced =>
        rw [edge?, body?_of_unbalanced unbalanced]
        rfl
    | commas inside several => exact edge?_of_commas inside several
    | first sides wrong =>
        rw [edge?_of_sides sides]
        exact ofEnds?_eq_error_iff.2 (.inl wrong)
    | second sides sound wrong =>
        rw [edge?_of_sides sides]
        exact ofEnds?_eq_error_iff.2 (.inr ⟨⟨_, sound⟩, wrong⟩)

/-- A statement is an edge exactly when nothing is wrong with it. -/
theorem exists_isEdge_iff (s : List Char) : (∃ e, IsEdge s e) ↔ ¬∃ fault, IsFault s fault := by
  simp only [← edge?_eq_ok_iff, ← edge?_eq_error_iff]
  cases edge? s <;> simp

/-! ### Lines -/

/-- Lines that are read put their edges in front of those of the lines behind them. -/
theorem Reads.edges?_append {front : List (List Char)} {edges : List Edge}
    (sound : Reads front edges) (number : Nat) (back : List (List Char)) :
    edges? number (front ++ back) =
      (edges? (number + front.length) back).map (edges ++ ·) := by
  induction sound generalizing number with
  | nil =>
      rw [List.nil_append, List.length_nil, Nat.add_zero]
      cases edges? number back <;> rfl
  | skip empty _ ih =>
      rw [List.cons_append, edges?, isStatement_iff.1 empty]
      simp only [List.isEmpty_nil, ↓reduceIte]
      rw [ih, List.length_cons, Nat.add_right_comm, Nat.add_assoc]
  | edge statement filled edge _ ih =>
      rw [List.cons_append, edges?, isStatement_iff.1 statement]
      simp only [List.isEmpty_iff, filled, ↓reduceIte, edge?_eq_ok_iff.2 edge]
      rw [ih, List.length_cons, Nat.add_right_comm, Nat.add_assoc]
      cases edges? (number + (_ + 1)) back <;> rfl

/-- Lines that the grammar reads are read as its edges. -/
theorem Reads.edges? {lines : List (List Char)} {edges : List Edge} (sound : Reads lines edges) :
    EdgeList.edges? 1 lines = .ok edges := by
  have read := sound.edges?_append 1 []
  rw [List.append_nil] at read
  rw [read]
  exact congrArg Except.ok (List.append_nil edges)

/-- Lines that fail in the grammar fail with its error. -/
theorem FailsAt.edges? {lines : List (List Char)} {error : EdgeListError}
    (failed : FailsAt lines error) : EdgeList.edges? 1 lines = .error error := by
  obtain ⟨sound, statement, filled, wrong⟩ := failed
  rw [sound.edges?_append, EdgeList.edges?, isStatement_iff.1 statement]
  simp only [List.isEmpty_iff, filled, ↓reduceIte, edge?_eq_error_iff.2 wrong, Nat.add_comm 1]
  rfl

/-- No text is outside of the grammar and of its faults. -/
theorem reads_or_failsAt (lines : List (List Char)) :
    (∃ edges, Reads lines edges) ∨ ∃ error, FailsAt lines error := by
  induction lines with
  | nil => exact .inl ⟨[], .nil⟩
  | cons line lines ih =>
      have statement : IsStatement line (statement line) := isStatement_iff.2 rfl
      by_cases empty : EdgeList.statement line = []
      · rw [empty] at statement
        refine ih.imp (fun ⟨edges, behind⟩ => ⟨edges, .skip statement behind⟩) ?_
        rintro ⟨_, ⟨sound, content, filled, wrong⟩⟩
        exact ⟨_, .intro (.skip statement sound) content filled wrong⟩
      · cases outcome : edge? (EdgeList.statement line) with
        | error fault => exact .inr ⟨_, .intro .nil statement empty (edge?_eq_error_iff.1 outcome)⟩
        | ok e =>
            have edge := edge?_eq_ok_iff.1 outcome
            refine ih.imp (fun ⟨edges, behind⟩ => ⟨_, .edge statement empty edge behind⟩) ?_
            rintro ⟨_, ⟨sound, content, filled, wrong⟩⟩
            exact ⟨_, .intro (.edge statement empty edge sound) content filled wrong⟩

/-- The edges of lines are those that the grammar reads. -/
theorem edges?_eq_ok_iff {lines : List (List Char)} {edges : List Edge} :
    edges? 1 lines = .ok edges ↔ Reads lines edges := by
  refine ⟨fun read => ?_, Reads.edges?⟩
  rcases reads_or_failsAt lines with ⟨_, sound⟩ | ⟨_, failed⟩
  · cases sound.edges?.symm.trans read
    exact sound
  · cases failed.edges?.symm.trans read

/-- The error of lines is the one with which they fail in the grammar. -/
theorem edges?_eq_error_iff {lines : List (List Char)} {error : EdgeListError} :
    edges? 1 lines = .error error ↔ FailsAt lines error := by
  refine ⟨fun reported => ?_, FailsAt.edges?⟩
  rcases reads_or_failsAt lines with ⟨_, sound⟩ | ⟨_, failed⟩
  · cases sound.edges?.symm.trans reported
  · cases failed.edges?.symm.trans reported
    exact failed

end EdgeList

/-- **An edge list is read by its grammar.** A text falls into lines in one way. When every line
that holds something is an edge, the text is read as the topology of these edges in order. Otherwise
the first line that is no edge is reported, with its number among all lines and what is wrong with
it. A line is an edge exactly when nothing is wrong with it. -/
theorem Topology.ofText?_reads (text : String) :
    ∃ lines, (∀ cut, Text.CutInto text.toList cut ↔ lines = cut) ∧
      (∀ t, ofText? text = .ok t ↔ EdgeList.Reads lines t.edges) ∧
      (∀ error, ofText? text = .error error ↔ EdgeList.FailsAt lines error) ∧
      ∀ s, (∃ e, EdgeList.IsEdge s e) ↔ ¬∃ fault, EdgeList.IsFault s fault := by
  refine ⟨Text.lines text.toList, fun _ => Text.cutInto_iff, fun t => ?_, fun error => ?_,
    EdgeList.exists_isEdge_iff⟩
  · rw [← EdgeList.edges?_eq_ok_iff, ofText?]
    cases EdgeList.edges? 1 (Text.lines text.toList) with
    | error => exact ⟨nofun, nofun⟩
    | ok edges =>
        constructor
        · rintro ⟨⟩
          rfl
        · rintro ⟨⟩
          rfl
  · rw [← EdgeList.edges?_eq_error_iff, ofText?]
    cases EdgeList.edges? 1 (Text.lines text.toList) <;> simp [Except.map]

/-- Comments and empty lines count, and blanks do not matter. -/
example : Topology.ofText? "# core\r\n( a:b , c:d:e ) # access\n\nr0,r1:Gi0" =
    .error ⟨4, .interface⟩ := by
  decide +kernel

end ConfigFacts
