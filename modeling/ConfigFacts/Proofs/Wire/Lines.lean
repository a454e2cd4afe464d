import ConfigFacts.Proofs.Text.Lines
import ConfigFacts.Proofs.Wire.History
import ConfigFacts.Proofs.Wire.Marks

/-!
# Bins line by line

A bin can be seen line by line. Whatever was written into it, its lines are ended, so what comes
behind starts a new line (`BinsStep.terminated_run`, `Bins.lines_pushAll`). When no field holds a
line feed, every fact is one line. It is shown as it was written, apart from a carriage return at
its end, which counts as a part of the line feed behind it (`BinsStep.lines_run`).
-/

namespace ConfigFacts

open ConfigFacts.Text (Terminated Unmarked)

namespace Text

private theorem dropReturn_eq_self_iff {line : List Char} :
    dropReturn line = line ↔ line.getLast? ≠ some '\r' := by
  refine ⟨fun same ended => ?_, dropReturn_of_bare⟩
  obtain ⟨front, rfl⟩ := List.getLast?_eq_some_iff.1 ended
  rw [dropReturn_append_return] at same
  exact absurd (congrArg List.length same) (by simp)

/-- Pieces with marks between them end as the last of them does. -/
theorem getLast?_intercalate {mark c : Char} (other : c ≠ mark) {pieces : List (List Char)} :
    ([mark].intercalate pieces).getLast? = some c ↔
      ∃ piece ∈ pieces.getLast?, piece.getLast? = some c := by
  induction pieces with
  | nil => exact ⟨nofun, nofun⟩
  | cons piece rest ih =>
      cases rest with
      | nil =>
          rw [List.intercalate_singleton]
          exact ⟨fun last => ⟨piece, rfl, last⟩, by rintro ⟨_, ⟨⟩, last⟩; exact last⟩
      | cons next rest =>
          rw [List.intercalate_cons_cons, List.getLast?_append, List.getLast?_concat,
            List.getLast?_cons_cons, ← ih]
          cases ([mark].intercalate (next :: rest)).getLast? with
          | none => exact ⟨fun last => absurd (Option.some.inj last).symm other, nofun⟩
          | some d => rfl

end Text

namespace Fact

variable {f : Fact} {fs : List Fact} {k : FactKind}

/-- No field of a fact holds a line feed. -/
def IsSingle (f : Fact) : Prop :=
  ∀ text ∈ f.texts, '\n' ∉ text.toList

instance (f : Fact) : Decidable f.IsSingle :=
  inferInstanceAs (Decidable (∀ text ∈ f.texts, _))

/-- The last field of a fact ends in a carriage return. -/
def EndsInReturn (f : Fact) : Prop :=
  ∃ text ∈ f.texts.getLast?, text.toList.getLast? = some '\r'

/-- What is seen of a fact in the lines of a bin. -/
def shown (f : Fact) : String :=
  String.ofList (Text.dropReturn f.line.toList)

/-- The line that is shown for a fact is its own unless it ends with a carriage return. -/
theorem shown_eq_line_iff : f.shown = f.line ↔ ¬f.EndsInReturn := by
  have line : f.shown = f.line ↔ Text.dropReturn f.line.toList = f.line.toList := by
    rw [shown, ← String.toList_inj, String.toList_ofList]
  rw [line, Text.dropReturn_eq_self_iff, toList_line, ne_eq,
    Text.getLast?_intercalate (by decide), List.getLast?_map]
  simp [EndsInReturn]

/-- The text of facts is terminated. -/
theorem terminated_text (k : FactKind) (fs : List Fact) : Terminated (text k fs).toList := by
  rw [toList_text]
  exact Text.terminated_flatMap _

/-- Facts without line feeds are one line each. -/
theorem lines_text (single : ∀ f ∈ fs, f.IsSingle) :
    (Text.lines (text k fs).toList).map String.ofList =
      (fs.filter fun f => f.kind = k).map shown := by
  have lines : ∀ line ∈ (fs.filter fun f => f.kind = k).map fun f => f.line.toList,
      '\n' ∉ line := by
    refine List.forall_mem_map.2 fun f member => feed_not_mem_line ?_
    exact single f (List.mem_filter.1 member).1
  rw [toList_text, Text.lines_flatMap lines, List.map_map, List.map_map]
  rfl

end Fact

/-- Facts that are pushed onto ended lines are seen behind them. -/
theorem Bins.lines_pushAll {b : Bins} {k : FactKind} {fs : List Fact}
    (ended : Terminated (b.get k).toList) (single : ∀ f ∈ fs, f.IsSingle) :
    (b.pushAll fs).lines k = b.lines k ++ (fs.filter fun f => f.kind = k).map Fact.shown := by
  rw [lines, get_pushAll, String.toList_append, Text.lines_append ended, List.map_append,
    Fact.lines_text single]
  rfl

namespace BinsStep

variable {ι : Type} [DecidableEq ι]

/-- In every history all lines of all bins are ended, even if fields hold line feeds. -/
theorem terminated_run (steps : List (BinsStep ι)) (i : ι) (k : FactKind) :
    Terminated ((run steps i).get k).toList := by
  rw [get_run]
  exact Fact.terminated_text k _

/-- **The lines of a bin are its facts, but for carriage returns at their ends.** After a history
that pushes no line feeds, a bin has one line for each fact of its kind, in order. The lines are
exactly the fields between bars when the last field of no such fact ends in a carriage return. Bars
in the fields do not matter. -/
theorem lines_run {steps : List (BinsStep ι)} (single : ∀ s ∈ steps, s.Pushes Fact.IsSingle) (i : ι)
    (k : FactKind) :
    (run steps i).lines k = ((written steps i).filter fun f => f.kind = k).map Fact.shown ∧
      ((run steps i).lines k).length = ((written steps i).filter fun f => f.kind = k).length ∧
      ((run steps i).lines k = ((written steps i).filter fun f => f.kind = k).map Fact.line ↔
        ∀ f ∈ written steps i, f.kind = k → ¬f.EndsInReturn) := by
  have view : (run steps i).lines k =
      ((written steps i).filter fun f => f.kind = k).map Fact.shown := by
    rw [Bins.lines, get_run, Fact.lines_text (forall_written single i)]
  refine ⟨view, by rw [view, List.length_map], ?_⟩
  rw [view, List.map_inj_left]
  simp only [List.mem_filter, decide_eq_true_eq, and_imp, Fact.shown_eq_line_iff]

/-- Bins that are appended to others and to themselves. A carriage return stands at the start of a
field, at the end of a fact, and before a bar; one fact has no fields. -/
def returning : List (BinsStep Bool) := [
  .push false ⟨.nodeVendor, ["r0\r", "\rcisco"]⟩,
  .push true ⟨.nodeVendor, ["r1", "cisco\r"]⟩,
  .append true false,
  .push true ⟨.nodeVendor, []⟩,
  .append true true]

theorem lines_run_returning :
    (∀ s ∈ returning, s.Pushes Fact.IsSingle) ∧
      (run returning false).lines .nodeVendor = ["r0\r|\rcisco"] ∧
      (run returning true).lines .nodeVendor =
        ["r1|cisco", "r0\r|\rcisco", "", "r1|cisco", "r0\r|\rcisco", ""] := by
  have single : ∀ s ∈ returning, s.Pushes Fact.IsSingle := by decide
  exact ⟨single, (lines_run single false .nodeVendor).1, (lines_run single true .nodeVendor).1⟩

/-- A carriage return at the end of a fact is not seen, though its fields have neither bars nor line
feeds. -/
theorem lines_not_always_facts :
    ¬∀ steps : List (BinsStep Unit),
      (∀ s ∈ steps, s.Pushes fun f => ∀ text ∈ f.texts, Unmarked text) → ∀ i k,
        (run steps i).lines k = ((written steps i).filter fun f => f.kind = k).map Fact.line ∧
        ((run steps i).lines k).length =
          ((written steps i).filter fun f => f.kind = k).length := by
  intro claim
  let steps : List (BinsStep Unit) := [.push () ⟨.nodeVendor, ["r0", "cisco\r"]⟩]
  have unmarked : ∀ s ∈ steps, s.Pushes fun f => ∀ text ∈ f.texts, Unmarked text := by decide
  have whole : (run steps ()).lines .nodeVendor = ["r0|cisco\r"] :=
    (claim steps unmarked () .nodeVendor).1
  have cut : (run steps ()).lines .nodeVendor = ["r0|cisco"] := by decide +kernel
  exact absurd (whole.symm.trans cut) (by decide)

end BinsStep

end ConfigFacts
