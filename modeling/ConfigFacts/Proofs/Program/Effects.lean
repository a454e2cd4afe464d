import ConfigFacts.Program.Plan
import ConfigFacts.Proofs.FileTree.Growth

/-!
# What a run changes

`Program.effects` are the actions that a run carries out: those that it plans, up to the first one
that fails. They lead from the tree before the run to the tree after it, but for folders that the
failing one has made (`Program.leaves_effects`). Whatever is carried out, folders stay, and a file
stays what it is until an action writes a file of its name (`Program.node?_of_perform?`); so what is
written once is there in the end (`Program.Leaves.children_of_written_once`).
-/

namespace ConfigFacts

namespace Action

/-- The tree after an action that succeeds. -/
def perform? (t : FileTree) (a : Action) : Option FileTree :=
  if (a.perform t).2 then some (a.perform t).1 else none

/-- The name of the file that an action writes. -/
def fileName? : Action → Option String
  | .makeFolders _ => none
  | .write path _ => (FileTree.names path).getLast?

variable {t u : FileTree} {a : Action}

/-- An action succeeds when it is performed without a failure. -/
theorem perform?_eq_some_iff : a.perform? t = some u ↔ a.perform t = (u, true) := by
  unfold perform?
  obtain ⟨v, success⟩ := a.perform t
  cases success <;> simp

/-- Folders are made when all of them are there in the end. -/
theorem perform?_makeFolders {path : String} :
    (makeFolders path).perform? t = some u ↔ t.makeFolders path = (u, true) :=
  perform?_eq_some_iff

/-- A file is written when its path leads to a place for it. -/
theorem perform?_write {path text : String} :
    (write path text).perform? t = t.write? path text := by
  cases written : t.write? path text <;> simp only [perform?, perform, written] <;> rfl

/-- Only folders can have been made by an action that fails. -/
theorem addsFolders_of_failure (failed : a.perform t = (u, false)) : t.AddsFolders u := by
  cases a with
  | makeFolders path =>
      have grown := t.addsFolders_makeFolders path
      rwa [show t.makeFolders path = (u, false) from failed] at grown
  | write path text =>
      cases written : t.write? path text with
      | some v =>
          simp only [perform, written] at failed
          cases failed
      | none =>
          simp only [perform, written] at failed
          cases failed
          exact .refl _

/-- An action makes folders or writes one file. -/
theorem perform?_cases (done : a.perform? t = some u) :
    (a.fileName? = none ∧ t.AddsFolders u) ∨ ∃ path text, a = .write path text ∧
      t.write? path text = some u := by
  cases a with
  | makeFolders path =>
      have grown := t.addsFolders_makeFolders path
      rw [perform?_makeFolders.1 done] at grown
      exact .inl ⟨rfl, grown⟩
  | write path text => exact .inr ⟨path, text, rfl, perform?_write.symm.trans done⟩

/-- An action keeps all folders. -/
theorem keepsFolders_of_perform? (done : a.perform? t = some u) : t.KeepsFolders u := by
  obtain ⟨_, grown⟩ | ⟨path, text, _, written⟩ := perform?_cases done
  · exact grown.keepsFolders
  · exact FileTree.keepsFolders_of_write? written

/-- What has another name than the written file is not changed. -/
theorem node?_of_perform? (done : a.perform? t = some u) {folder : Place} {name : String}
    {node : Node} (other : a.fileName? ≠ some name)
    (there : t.node? (folder ++ [name]) = some node) : u.node? (folder ++ [name]) = some node := by
  obtain ⟨_, grown⟩ | ⟨path, text, rfl, written⟩ := perform?_cases done
  · exact grown.node?_of_node? there
  · obtain ⟨place, found, _, rfl⟩ := FileTree.write?_eq_some_iff.1 written
    obtain ⟨_, file, last, _, base, _, rfl⟩ := FileTree.filePlace?_eq_some_iff.1 found
    have different : base ++ [file] ≠ folder ++ [name] := by
      intro same
      obtain rfl := List.singleton_inj.1 (List.append_inj' same rfl).2
      exact other last
    rw [FileTree.node?_put_of_ne different]
    exact there

/-- An action can be carried out, and if it makes folders they are there already. -/
def Ready (t : FileTree) : Action → Prop
  | .makeFolders path => ∃ place, t.base? path = some place
  | .write path _ => t.Accepts path

private theorem Ready.exists_perform? (ready : a.Ready t) : ∃ u, a.perform? t = some u := by
  cases a with
  | makeFolders path =>
      obtain ⟨place, found⟩ := ready
      exact ⟨t, perform?_makeFolders.2 (FileTree.makeFolders_of_base? found)⟩
  | write path text =>
      rw [perform?_write]
      exact ready.exists_write? text

/-- What is ready stays ready while other actions are carried out that are. -/
theorem Ready.of_perform? {b : Action} (ready : b.Ready t) (other : a.Ready t)
    (done : a.perform? t = some u) : b.Ready u := by
  cases a with
  | makeFolders path =>
      obtain ⟨place, found⟩ := other
      have made := perform?_makeFolders.1 done
      rw [FileTree.makeFolders_of_base? found] at made
      cases made
      exact ready
  | write path text =>
      cases b with
      | makeFolders folder =>
          obtain ⟨place, found⟩ := ready
          exact ⟨place, (keepsFolders_of_perform? done).base? found⟩
      | write file content => exact ready.of_write? (perform?_write.symm.trans done)

end Action

namespace Program

/-- The tree after actions that all succeed. -/
def perform? (t : FileTree) (actions : List Action) : Option FileTree :=
  actions.foldlM (fun t a => a.perform? t) t

/-- The actions up to the first one that fails. -/
def carriedOut (t : FileTree) : List Action → List Action
  | [] => []
  | a :: rest =>
    match a.perform? t with
    | some u => a :: carriedOut u rest
    | none => []

/-- The actions that a run carries out. -/
def effects (processors : Nat) (args : List String) (t : FileTree) : List Action :=
  match Options.ofArguments? args with
  | none => []
  | some o => carriedOut t (Plan.make processors o (findings o t)).actions

/-- A tree is what some actions leave: all of them succeed, and afterwards only folders are made, by
one that fails. -/
def Leaves (t : FileTree) (actions : List Action) (after : FileTree) : Prop :=
  ∃ u, perform? t actions = some u ∧ u.AddsFolders after

variable {t u after : FileTree}

theorem perform?_cons (t : FileTree) (a : Action) (rest : List Action) :
    perform? t (a :: rest) = (a.perform? t).bind fun u => perform? u rest := by
  rw [perform?, List.foldlM_cons]
  rfl

theorem perform?_append (t : FileTree) (first second : List Action) :
    perform? t (first ++ second) = (perform? t first).bind fun u => perform? u second := by
  rw [perform?, List.foldlM_append]
  rfl

/-- Actions that all succeed lead to the tree after the last one. -/
theorem performAll_eq_true_iff {actions : List Action} :
    performAll t actions = (u, true) ↔ perform? t actions = some u := by
  induction actions generalizing t with
  | nil => simp [performAll, perform?]
  | cons a rest ih =>
      rw [performAll, perform?_cons, Action.perform?]
      split
      next v done => simp [done, ih]
      next v failed => simp [failed]

/-- All actions succeed when the tree after all of them is there. -/
theorem performAll_snd (t : FileTree) (actions : List Action) :
    (performAll t actions).2 = (perform? t actions).isSome := by
  rw [Bool.eq_iff_iff, Option.isSome_iff_exists]
  simp only [← performAll_eq_true_iff]
  constructor
  · intro succeeds
    exact ⟨_, Prod.ext rfl succeeds⟩
  · rintro ⟨u, done⟩
    rw [done]

/-- If no action fails, all of them are carried out. -/
theorem carriedOut_of_perform? {actions : List Action} (done : perform? t actions = some u) :
    carriedOut t actions = actions := by
  induction actions generalizing t with
  | nil => rfl
  | cons a rest ih =>
      rw [perform?_cons, Option.bind_eq_some_iff] at done
      obtain ⟨v, first, further⟩ := done
      rw [carriedOut, first]
      exact congrArg (a :: ·) (ih further)

/-- The actions that are carried out lead to the tree that is left. -/
theorem leaves_carriedOut (t : FileTree) (actions : List Action) :
    Leaves t (carriedOut t actions) (performAll t actions).1 := by
  induction actions generalizing t with
  | nil => exact ⟨t, rfl, .refl t⟩
  | cons a rest ih =>
      obtain ⟨⟨u, success⟩, done⟩ : ∃ result, a.perform t = result := ⟨_, rfl⟩
      cases success with
      | true =>
          have first := Action.perform?_eq_some_iff.2 done
          obtain ⟨v, further, grown⟩ := ih u
          rw [performAll, carriedOut, done, first]
          exact ⟨v, by rw [perform?_cons, first, Option.bind_some, further], grown⟩
      | false =>
          have none : a.perform? t = none := by rw [Action.perform?, done]; rfl
          rw [performAll, carriedOut, done, none]
          exact ⟨t, rfl, Action.addsFolders_of_failure done⟩

/-- The effects of a run lead to the tree that it leaves. -/
theorem leaves_effects (processors : Nat) (args : List String) (t : FileTree) :
    Leaves t (effects processors args t) (run processors args t).2 := by
  unfold effects run
  cases Options.ofArguments? args with
  | none => exact ⟨t, rfl, .refl t⟩
  | some o => exact leaves_carriedOut t _

theorem keepsFolders_of_perform? {actions : List Action} (done : perform? t actions = some u) :
    t.KeepsFolders u := by
  induction actions generalizing t with
  | nil =>
      obtain rfl := Option.some.inj done
      exact .refl _
  | cons a rest ih =>
      rw [perform?_cons, Option.bind_eq_some_iff] at done
      obtain ⟨v, first, further⟩ := done
      exact (Action.keepsFolders_of_perform? first).trans (ih further)

/-- What no action has written keeps its node. -/
theorem node?_of_perform? {actions : List Action} (done : perform? t actions = some u)
    {folder : Place} {name : String} {node : Node}
    (others : ∀ a ∈ actions, a.fileName? ≠ some name)
    (there : t.node? (folder ++ [name]) = some node) : u.node? (folder ++ [name]) = some node := by
  induction actions generalizing t with
  | nil =>
      obtain rfl := Option.some.inj done
      exact there
  | cons a rest ih =>
      rw [perform?_cons, Option.bind_eq_some_iff] at done
      obtain ⟨v, first, further⟩ := done
      obtain ⟨other, others⟩ := List.forall_mem_cons.1 others
      exact ih further others (Action.node?_of_perform? first other there)

/-- A file that is written once into a folder is there once after all actions, with its text. -/
theorem Leaves.children_of_written_once {actions : List Action} (left : Leaves t actions after)
    {folder file text : String} (plain : '/' ∉ file.toList)
    (once : actions.filter (fun a => a.fileName? = some file) =
      [.write (FileTree.join folder file) text]) :
    ∃ base, after.base? folder = some base ∧
      (after.children base).filter (fun e => e.1 = file) = [(file, .file (some text))] := by
  obtain ⟨earlier, later, rfl, _, _, rest⟩ := List.filter_eq_cons_iff.1 once
  have others : ∀ a ∈ later, a.fileName? ≠ some file := by
    intro a member same
    exact List.filter_eq_nil_iff.1 rest a member (decide_eq_true same)
  obtain ⟨u, done, grown⟩ := left
  rw [perform?_append, Option.bind_eq_some_iff] at done
  obtain ⟨v, _, done⟩ := done
  rw [perform?_cons, Option.bind_eq_some_iff] at done
  obtain ⟨w, written, further⟩ := done
  have keeps : v.KeepsFolders after := ((Action.keepsFolders_of_perform? written).trans
    (keepsFolders_of_perform? further)).trans grown.keepsFolders
  obtain ⟨base, reached, here⟩ :=
    FileTree.node?_of_write?_join plain (Action.perform?_write.symm.trans written)
  refine ⟨base, keeps.base? reached, FileTree.filter_children ?_⟩
  exact grown.node?_of_node? (node?_of_perform? further others here)

/-- Actions that can be carried out before all others, and need no new folder, can be carried out one
after the other. -/
theorem perform?_of_ready {actions : List Action} (ready : ∀ a ∈ actions, a.Ready t) :
    ∃ u, perform? t actions = some u := by
  induction actions generalizing t with
  | nil => exact ⟨t, rfl⟩
  | cons a rest ih =>
      obtain ⟨first, further⟩ := List.forall_mem_cons.1 ready
      obtain ⟨v, done⟩ := first.exists_perform?
      obtain ⟨u, later⟩ := ih (t := v) fun b member => (further b member).of_perform? first done
      refine ⟨u, ?_⟩
      rw [perform?_cons]
      exact Option.bind_eq_some_iff.2 ⟨v, done, later⟩

end Program

end ConfigFacts
