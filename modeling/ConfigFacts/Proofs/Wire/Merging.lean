import ConfigFacts.Proofs.Network.Facts
import ConfigFacts.Proofs.Wire.Lines

/-!
# Merging bins

Bins are filled by pushing facts and by appending other bins (`Bins.Reachable`). Both operations
leave all lines ended, whatever the fields hold (`Bins.Reachable.terminated`), so at a seam the last
line of one bin never runs into the first line of the next. Hence bins form a monoid in which texts,
lines and numbers of lines add up (`Bins.append_adds_lines`), and bins that are merged in another
order have the same lines (`Bins.lines_concat_perm`).
-/

namespace ConfigFacts

open ConfigFacts.Text (Terminated)

namespace Text

private theorem terminated_iff {s : List Char} :
    Terminated s ↔ s = [] ∨ s.getLast? = some '\n' := by
  constructor
  · intro ended
    cases last : s.getLast? with
    | none => exact .inl (List.getLast?_eq_none_iff.1 last)
    | some c => exact .inr (congrArg some (ended c last))
  · rintro (rfl | last) c member
    · cases member
    · exact Option.some.inj (member.symm.trans last)

end Text

namespace Bins

/-- The bins that can be made out of empty ones by pushing facts and by appending bins that were
made this way, such as the ones that are appended to. -/
inductive Reachable : Bins → Prop where
  | empty : Reachable .empty
  | push {b : Bins} (f : Fact) (before : Reachable b) : Reachable (b.push f)
  | append {a b : Bins} (before : Reachable a) (source : Reachable b) : Reachable (a ++ b)

namespace Reachable

variable {b : Bins}

/-- Pushing facts leads from reachable bins to reachable ones. -/
theorem pushAll (before : b.Reachable) (fs : List Fact) : (b.pushAll fs).Reachable := by
  induction fs generalizing b with
  | nil => exact before
  | cons f fs ih => exact ih (before.push f)

/-- The bins of facts are reachable. -/
theorem ofFacts (fs : List Fact) : (Bins.ofFacts fs).Reachable :=
  empty.pushAll fs

/-- Every line is ended, whatever was written. -/
theorem terminated (reachable : b.Reachable) (k : FactKind) : Terminated (b.get k).toList := by
  induction reachable with
  | empty =>
      rw [get_empty]
      exact nofun
  | push f _ ih =>
      rw [get_push, String.toList_append]
      exact ih.append (Fact.terminated_text k [f])
  | append _ _ left right =>
      rw [get_append, String.toList_append]
      exact left.append right

private theorem text_cases (reachable : b.Reachable) (k : FactKind) :
    b.get k = "" ∨ (b.get k).toList.getLast? = some '\n' :=
  (Text.terminated_iff.1 (reachable.terminated k)).imp_left String.toList_eq_nil_iff.1

end Reachable

variable {a b : Bins}

/-- Bins are empty when each of them is. -/
theorem isEmpty_iff : b.isEmpty = true ↔ ∀ k, b.get k = "" := by
  simp only [isEmpty, List.all_eq_true, String.isEmpty_iff, FactKind.mem_all, forall_const]

private theorem isEmpty_append : (a ++ b).isEmpty = (a.isEmpty && b.isEmpty) := by
  rw [Bool.eq_iff_iff, Bool.and_eq_true, isEmpty_iff, isEmpty_iff, isEmpty_iff, ← forall_and]
  simp only [get_append, String.append_eq_empty_iff]

/-- Behind ended lines the lines of other bins follow. -/
theorem lines_append (reachable : a.Reachable) (b : Bins) (k : FactKind) :
    (a ++ b).lines k = a.lines k ++ b.lines k := by
  unfold lines
  rw [get_append, String.toList_append, Text.lines_append (reachable.terminated k), List.map_append]

@[simp] theorem lines_empty (k : FactKind) : empty.lines k = [] := by
  rw [lines, get_empty]
  rfl

private theorem lines_foldl_append {start : Bins} (before : start.Reachable) {bs : List Bins}
    (reachable : ∀ b ∈ bs, b.Reachable) (k : FactKind) :
    (bs.foldl append start).lines k = start.lines k ++ bs.flatMap fun b => b.lines k := by
  induction bs generalizing start with
  | nil => exact (List.append_nil _).symm
  | cons b bs ih =>
      obtain ⟨first, later⟩ := List.forall_mem_cons.1 reachable
      have rest := ih (before.append first) later
      rw [lines_append before, List.append_assoc] at rest
      rw [List.flatMap_cons]
      exact rest

/-- Concatenated bins have the lines of all of them, in order. -/
theorem lines_concat {bs : List Bins} (reachable : ∀ b ∈ bs, b.Reachable) (k : FactKind) :
    (concat bs).lines k = bs.flatMap fun b => b.lines k := by
  rw [concat, lines_foldl_append .empty reachable, lines_empty, List.nil_append]

/-- Merged in another order, bins have the same lines in another order. -/
theorem lines_concat_perm {bs cs : List Bins} (reachable : ∀ b ∈ bs, b.Reachable)
    (same : bs.Perm cs) (k : FactKind) : ((concat bs).lines k).Perm ((concat cs).lines k) := by
  rw [lines_concat reachable, lines_concat fun c member => reachable c (same.mem_iff.2 member)]
  exact same.flatMap_right _

end Bins

/-- The bins of a history are reachable. -/
theorem BinsStep.reachable_run {ι : Type} [DecidableEq ι] (steps : List (BinsStep ι)) (i : ι) :
    (run steps i).Reachable := by
  have step {bins : ι → Bins} (before : ∀ i, (bins i).Reachable) (s : BinsStep ι) (i : ι) :
      (s.apply bins i).Reachable := by
    cases s with
    | push target f =>
        by_cases own : i = target
        · simpa only [BinsStep.apply, own, ↓reduceIte] using (before target).push f
        · simpa only [BinsStep.apply, own, ↓reduceIte] using before i
    | append target source =>
        by_cases own : i = target
        · simpa only [BinsStep.apply, own, ↓reduceIte] using (before target).append (before source)
        · simpa only [BinsStep.apply, own, ↓reduceIte] using before i
  have all : ∀ bins : ι → Bins, (∀ i, (bins i).Reachable) →
      ∀ i, (steps.foldl BinsStep.apply bins i).Reachable := by
    induction steps with
    | nil => exact fun _ before => before
    | cons s steps ih => exact fun _ before => ih _ (step before s)
  exact all _ (fun _ => .empty) i

/-- The bins of a device that does not fail are reachable. -/
theorem Device.reachable_writeAlone {d : Device} {known : CommunitySet} {bins : Bins}
    (written : (d.writeAlone known).1 = .ok bins) : bins.Reachable := by
  have sound := failure_eq_none_of_writeAlone written
  rw [writeAlone_of_none sound] at written
  cases written
  exact .ofFacts _

/-- **Appending bins adds up.** Whatever was pushed, a bin is empty or ends in a line feed. So
behind the text of one bin the text of another follows, its lines behind the lines and their number
on top of the number, and two bins are empty together exactly when both are. Appending is
associative and empty bins change nothing, and when several bins are merged, the order in which this
is done only shows in the order of the lines. -/
theorem Bins.append_adds_lines {a b : Bins} (left : a.Reachable) (right : b.Reachable) :
    (∀ c ∈ [a, b, a ++ b], ∀ k, c.get k = "" ∨ (c.get k).toList.getLast? = some '\n') ∧
      (∀ k, (a ++ b).get k = a.get k ++ b.get k ∧ (a ++ b).lines k = a.lines k ++ b.lines k ∧
        ((a ++ b).lines k).length = (a.lines k).length + (b.lines k).length) ∧
      ((a ++ b).isEmpty = true ↔ a.isEmpty = true ∧ b.isEmpty = true) ∧
      (∀ c, a ++ b ++ c = a ++ (b ++ c)) ∧ .empty ++ a = a ∧ a ++ .empty = a ∧
      ∀ bs cs : List Bins, (∀ b ∈ bs, b.Reachable) → bs.Perm cs →
        ∀ k, ((concat bs).lines k).Perm ((concat cs).lines k) := by
  have ended : ∀ c ∈ [a, b, a ++ b], c.Reachable :=
    List.forall_mem_cons.2 ⟨left, List.forall_mem_cons.2 ⟨right,
      List.forall_mem_singleton.2 (left.append right)⟩⟩
  refine ⟨fun c member => (ended c member).text_cases,
    fun k => ⟨get_append a b k, lines_append left b k, ?_⟩, ?_,
    append_assoc a b, empty_append a, append_empty a,
    fun bs cs reachable same => lines_concat_perm reachable same⟩
  · rw [lines_append left, List.length_append]
  · rw [isEmpty_append, Bool.and_eq_true]

/-- Bins that are appended to themselves. One fact is empty, and the fields of the other have a line
feed in front and a carriage return behind. -/
def BinsStep.broken : List (BinsStep Unit) := [
  .push () ⟨.nodeVendor, []⟩,
  .push () ⟨.nodeVendor, ["\nr0", "cisco\r"]⟩,
  .append () ()]

theorem Bins.append_adds_lines_broken :
    let a := BinsStep.run BinsStep.broken ()
    let b := Bins.ofFacts ((Device.named "r1" "juniper").extract .empty).facts
    a.Reachable ∧ b.Reachable ∧
      (a ++ b).lines .nodeVendor =
        ["", "", "r0|cisco", "", "", "r0|cisco"] ++ ["r1|juniper"] ∧
      ((concat [a, b]).lines .nodeVendor).Perm ((concat [b, a]).lines .nodeVendor) := by
  intro a b
  have left : a.Reachable := BinsStep.reachable_run BinsStep.broken ()
  have right : b.Reachable :=
    Device.reachable_writeAlone (Device.writeAlone_of_none (by decide +kernel))
  have both : ∀ c ∈ [a, b], c.Reachable :=
    List.forall_mem_cons.2 ⟨left, List.forall_mem_singleton.2 right⟩
  have first : a.lines .nodeVendor = ["", "", "r0|cisco", "", "", "r0|cisco"] := by decide +kernel
  have second : b.lines .nodeVendor = ["r1|juniper"] := by decide +kernel
  obtain ⟨_, sums, _, _, _, _, merged⟩ := append_adds_lines left right
  refine ⟨left, right, ?_, merged [a, b] [b, a] both (.swap _ _ _) .nodeVendor⟩
  rw [(sums .nodeVendor).2.1, first, second]

end ConfigFacts
