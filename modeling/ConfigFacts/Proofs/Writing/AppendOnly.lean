import ConfigFacts.Proofs.Writing.Families
import ConfigFacts.Session

/-!
# Writing only appends

A program is append-only when it treats every ledger like the empty one: it ends in the same way,
raises the same warnings, and puts behind each bin the text that it writes into empty bins
(`Writing.AppendOnly`). Writing a device is append-only whether it fails or not, so extractors that
share bins do not see each other (`Session.runAll_appends`).
-/

namespace ConfigFacts

namespace Writing

/-- A program that ends in the same way on every ledger and adds the same warnings and texts. -/
structure AppendOnly (w : Writing Unit) : Prop where
  outcome : ∀ l, (w.perform l).1 = (w.perform .empty).1
  warnings : ∀ l, (w.perform l).2.warnings = l.warnings ++ (w.perform .empty).2.warnings
  text : ∀ l k, (w.perform l).2.bins.get k = l.bins.get k ++ (w.perform .empty).2.bins.get k

/-- A program that writes an extraction never reads the ledger. -/
theorem Writes.appendOnly {w : Writing Unit} {e : Extraction} (writes : Writes w e) :
    w.AppendOnly where
  outcome l := by rw [writes l, writes .empty]
  warnings l := by
    rw [writes l, writes .empty]
    simp only [Ledger.add, Ledger.empty, List.nil_append]
  text l k := by
    rw [writes l, writes .empty]
    simp only [Ledger.add, Ledger.empty, Bins.get_pushAll, Bins.get_empty, String.empty_append]

variable {w : Writing Unit}

/-- Every call of an append-only program ends as the first one does. -/
theorem AppendOnly.repeatedly_outcomes (appends : w.AppendOnly) (n : Nat) (l : Ledger) :
    (w.repeatedly n l).1 = List.replicate n (w.perform .empty).1 := by
  induction n generalizing l with
  | zero => rfl
  | succ n ih =>
      have rest := ih (w.perform l).2
      rw [List.replicate_succ, ← rest, ← appends.outcome l]
      rfl

private theorem AppendOnly.repeatedly_warnings (appends : w.AppendOnly) (n : Nat) (l : Ledger) :
    (w.repeatedly n l).2.warnings =
      l.warnings ++ (List.replicate n (w.perform .empty).2.warnings).flatten := by
  induction n generalizing l with
  | zero => exact (List.append_nil _).symm
  | succ n ih =>
      have step : (w.repeatedly (n + 1) l).2 = (w.repeatedly n (w.perform l).2).2 := rfl
      rw [step, ih, appends.warnings, List.replicate_succ, List.flatten_cons, List.append_assoc]

private theorem AppendOnly.repeatedly_text (appends : w.AppendOnly) (n : Nat) (l : Ledger)
    (k : FactKind) :
    (w.repeatedly n l).2.bins.get k =
      l.bins.get k ++ String.join (List.replicate n ((w.perform .empty).2.bins.get k)) := by
  induction n generalizing l with
  | zero => exact String.append_empty.symm
  | succ n ih =>
      have step : (w.repeatedly (n + 1) l).2 = (w.repeatedly n (w.perform l).2).2 := rfl
      rw [step, ih, appends.text, List.replicate_succ, String.join_cons, String.append_assoc]

end Writing

/-- Writing a device only appends, also when it fails. -/
theorem Device.write_appendOnly (d : Device) (communities : CommunitySet) :
    (d.write communities).AppendOnly :=
  (d.writes communities).appendOnly

namespace Session

/-- What one call of the extractor does to an empty ledger. -/
def fresh (s : Session) : Except Failure Unit × Ledger :=
  (s.device.write s.communities).perform .empty

private theorem run_report (s : Session) (b : Bins) :
    (s.run b).1 = ⟨List.replicate s.calls s.fresh.1,
      (List.replicate s.calls s.fresh.2.warnings).flatten⟩ := by
  have appends := s.device.write_appendOnly s.communities
  have outcomes := appends.repeatedly_outcomes s.calls ⟨b, []⟩
  have warnings := appends.repeatedly_warnings s.calls ⟨b, []⟩
  rw [List.nil_append] at warnings
  unfold run
  simp only [outcomes, warnings, fresh]

/-- The text behind a bin after a session is that of all its calls. -/
theorem run_text (s : Session) (b : Bins) (k : FactKind) :
    (s.run b).2.get k =
      b.get k ++ String.join (List.replicate s.calls (s.fresh.2.bins.get k)) :=
  (s.device.write_appendOnly s.communities).repeatedly_text s.calls ⟨b, []⟩ k

/-- The text behind a bin after some sessions is that of all their calls. -/
theorem runAll_text (sessions : List Session) (b : Bins) (k : FactKind) :
    (runAll sessions b).2.get k =
      b.get k ++ String.join
        (sessions.flatMap fun s => List.replicate s.calls (s.fresh.2.bins.get k)) := by
  induction sessions generalizing b with
  | nil => exact String.append_empty.symm
  | cons s rest ih =>
      have step : (runAll (s :: rest) b).2 = (runAll rest (s.run b).2).2 := rfl
      rw [step, ih, run_text, List.flatMap_cons, String.join_append, String.append_assoc]

/-- The reports of some sessions do not depend on each other, nor on the bins. -/
theorem runAll_reports (sessions : List Session) (b : Bins) :
    (runAll sessions b).1 = sessions.map fun s =>
      ⟨List.replicate s.calls s.fresh.1, (List.replicate s.calls s.fresh.2.warnings).flatten⟩ := by
  induction sessions generalizing b with
  | nil => rfl
  | cons s rest ih =>
      have step : (runAll (s :: rest) b).1 = (s.run b).1 :: (runAll rest (s.run b).2).1 := rfl
      rw [step, ih, run_report, List.map_cons]

/-- **Extraction appends and never reads.** Writing a device ends on every ledger as on the empty
one, with the same warnings and the same text behind each bin. Any number of sessions on shared bins
leaves in each bin the texts of all calls in their order, and each extractor holds its warnings once
for each of its calls. -/
theorem runAll_appends :
    (∀ (d : Device) (communities : CommunitySet), (d.write communities).AppendOnly) ∧
      ∀ (sessions : List Session) (b : Bins),
        (∀ k, (runAll sessions b).2.get k = b.get k ++ String.join
          (sessions.flatMap fun s => List.replicate s.calls (s.fresh.2.bins.get k))) ∧
        (runAll sessions b).1 = sessions.map fun s =>
          ⟨List.replicate s.calls s.fresh.1,
            (List.replicate s.calls s.fresh.2.warnings).flatten⟩ :=
  ⟨Device.write_appendOnly, fun sessions b =>
    ⟨runAll_text sessions b, runAll_reports sessions b⟩⟩

end Session

end ConfigFacts
