import ConfigFacts.Proofs.Program.Effects

/-!
# Which write is the last one

Paths are compared by where they lead in the tree that a run leaves. There every path leads that a
file was written to (`Program.Leaves.leads`), since folders stay. At a place that some of these
paths lead to stands the text that was written there last; everywhere else the files are those from
before the run (`Program.Leaves.file_iff`).
-/

namespace ConfigFacts

namespace Action

/-- The text that an action writes to a place, in a tree that says where paths lead. -/
def textAt? (u : FileTree) (place : Place) : Action → Option String
  | .makeFolders _ => none
  | .write path text => if u.filePlace? path = some place then some text else none

/-- The path of the file that an action writes leads somewhere. -/
def Leads (u : FileTree) : Action → Prop
  | .makeFolders _ => True
  | .write path _ => ∃ place, u.filePlace? path = some place

variable {t u : FileTree} {a : Action} {place : Place}

private theorem Leads.of_keepsFolders (leads : a.Leads t) (keeps : t.KeepsFolders u) :
    a.Leads u := by
  cases a with
  | makeFolders path => trivial
  | write path text =>
      obtain ⟨place, found⟩ := leads
      exact ⟨place, keeps.filePlace? found⟩

/-- Where folders stay, an action writes to the same places. -/
theorem textAt?_of_keepsFolders (leads : a.Leads t) (keeps : t.KeepsFolders u) (place : Place) :
    a.textAt? u place = a.textAt? t place := by
  cases a with
  | makeFolders path => rfl
  | write path text =>
      obtain ⟨place, found⟩ := leads
      rw [textAt?, textAt?, keeps.filePlace? found, found]

private theorem leads_of_perform? (done : a.perform? t = some u) : a.Leads t := by
  cases a with
  | makeFolders path => trivial
  | write path text =>
      rw [perform?_write] at done
      obtain ⟨place, found, _⟩ := FileTree.write?_eq_some_iff.1 done
      exact ⟨place, found⟩

/-- An action leaves the files as they are, but for the one that it writes. -/
theorem file_iff_of_perform? (done : a.perform? t = some u) (text : Option String) :
    u.node? place = some (.file text) ↔
      (a.textAt? u place).elim (t.node? place = some (.file text)) fun written =>
        text = some written := by
  have keeps := keepsFolders_of_perform? done
  rw [textAt?_of_keepsFolders (leads_of_perform? done) keeps]
  cases a with
  | makeFolders path =>
      have grown := t.addsFolders_makeFolders path
      rw [perform?_makeFolders.1 done] at grown
      exact grown.file_iff
  | write path content =>
      rw [perform?_write] at done
      obtain ⟨changed, found, free, rfl⟩ := FileTree.write?_eq_some_iff.1 done
      have below : changed ≠ [] := by
        rintro rfl
        exact free rfl
      rw [textAt?, found]
      by_cases here : changed = place
      · subst here
        rw [if_pos rfl, FileTree.node?_put_self below, Option.elim_some, Option.some.injEq,
          Node.file.injEq, eq_comm]
      · have elsewhere : some changed ≠ some place := by simpa using here
        rw [if_neg elsewhere, FileTree.node?_put_of_ne here, Option.elim_none]

end Action

namespace Program

variable {t u after : FileTree} {place : Place} {actions : List Action}

/-- The text that some actions write to a place last, if any of them does. -/
def lastText? (u : FileTree) (place : Place) (actions : List Action) : Option String :=
  actions.reverse.findSome? (Action.textAt? u place)

/-- The last text that actions give a file is that of the second part, if there is one. -/
theorem lastText?_append (first second : List Action) : lastText? u place (first ++ second) =
    (lastText? u place second).or (lastText? u place first) := by
  rw [lastText?, List.reverse_append, List.findSome?_append]
  rfl

private theorem lastText?_cons (a : Action) (rest : List Action) :
    lastText? u place (a :: rest) = (lastText? u place rest).or (a.textAt? u place) := by
  rw [lastText?, List.reverse_cons, List.findSome?_append, List.findSome?_singleton]
  rfl

/-- Where folders stay, the last text is the same. -/
theorem lastText?_of_keepsFolders (leads : ∀ a ∈ actions, a.Leads u)
    (keeps : u.KeepsFolders after) : lastText? after place actions = lastText? u place actions := by
  induction actions with
  | nil => rfl
  | cons a rest ih =>
      obtain ⟨first, further⟩ := List.forall_mem_cons.1 leads
      rw [lastText?_cons, lastText?_cons, ih further,
        Action.textAt?_of_keepsFolders first keeps]

/-- Where the files of actions that succeed are written is known afterwards. -/
theorem leads_of_perform? (done : perform? t actions = some u) : ∀ a ∈ actions, a.Leads u := by
  induction actions generalizing t with
  | nil => exact fun _ none => nomatch none
  | cons a rest ih =>
      have keeps := keepsFolders_of_perform? done
      rw [perform?_cons, Option.bind_eq_some_iff] at done
      obtain ⟨v, first, further⟩ := done
      exact List.forall_mem_cons.2
        ⟨(Action.leads_of_perform? first).of_keepsFolders keeps, ih further⟩

/-- After actions that all succeed, a file has the text that was written to its place last. -/
theorem file_iff_of_perform? (done : perform? t actions = some u) (text : Option String) :
    u.node? place = some (.file text) ↔
      (lastText? u place actions).elim (t.node? place = some (.file text)) fun written =>
        text = some written := by
  induction actions generalizing t with
  | nil =>
      obtain rfl := Option.some.inj done
      rfl
  | cons a rest ih =>
      rw [perform?_cons, Option.bind_eq_some_iff] at done
      obtain ⟨v, first, further⟩ := done
      have keeps : v.KeepsFolders u := keepsFolders_of_perform? further
      have known := (Action.leads_of_perform? first).of_keepsFolders
        (Action.keepsFolders_of_perform? first)
      rw [ih further, lastText?_cons, Action.textAt?_of_keepsFolders known keeps]
      cases lastText? u place rest with
      | some written => exact Iff.rfl
      | none => exact Action.file_iff_of_perform? first text

/-- Every path that some actions have written to leads somewhere in the tree that they leave. -/
theorem Leaves.leads (left : Leaves t actions after) : ∀ a ∈ actions, a.Leads after := by
  obtain ⟨u, done, grown⟩ := left
  exact fun a member => (leads_of_perform? done a member).of_keepsFolders grown.keepsFolders

/-- **The last write stands.** In the tree that some actions leave, a file has the text that was
written to its place last. Where nothing was written, the files are those from before. -/
theorem Leaves.file_iff (left : Leaves t actions after) (text : Option String) :
    after.node? place = some (.file text) ↔
      (lastText? after place actions).elim (t.node? place = some (.file text)) fun written =>
        text = some written := by
  obtain ⟨u, done, grown⟩ := left
  rw [lastText?_of_keepsFolders (leads_of_perform? done) grown.keepsFolders, grown.file_iff]
  exact file_iff_of_perform? done text

/-- A file has the text of a write that no later one leads to the place of. -/
theorem Leaves.node?_of_last_write {earlier later : List Action} {a : Action} {text : String}
    (left : Leaves t (earlier ++ a :: later) after) (here : a.textAt? after place = some text)
    (others : ∀ b ∈ later, b.textAt? after place = none) :
    after.node? place = some (.file (some text)) := by
  have silent : lastText? after place later = none :=
    List.findSome?_eq_none_iff.2 fun b member => others b (List.mem_reverse.1 member)
  rw [left.file_iff, lastText?_append, lastText?_cons, silent, here, Option.none_or,
    Option.some_or, Option.elim_some]

/-- A text that is last at a place was written there. -/
theorem exists_write_of_lastText? {text : String} (last : lastText? u place actions = some text) :
    ∃ path, .write path text ∈ actions ∧ u.filePlace? path = some place := by
  obtain ⟨a, member, written⟩ := List.exists_of_findSome?_eq_some last
  cases a with
  | makeFolders path => cases written
  | write path content =>
      rw [Action.textAt?, Option.ite_none_right_eq_some, Option.some.injEq] at written
      obtain ⟨found, rfl⟩ := written
      exact ⟨path, List.mem_reverse.1 member, found⟩

end Program

end ConfigFacts
