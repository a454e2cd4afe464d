import ConfigFacts.Network
import ConfigFacts.Proofs.Bins
import ConfigFacts.Proofs.SortedMap

/-!
# Merging reports

Merging reports joins what they hold: the bins of all reports without a failure
(`NetworkFacts.ofReports_bins`), under each hostname the warnings of all reports on it
(`NetworkFacts.ofReports_warnings`), and the last of their failures
(`NetworkFacts.ofReports_failures`).
-/

namespace ConfigFacts

/-- The failure in a result. -/
def Network.failureOf? : Except Failure Bins → Option Failure
  | .ok _ => none
  | .error failure => some failure

namespace NetworkFacts

open Network

/-- Facts of networks are equal when their bins are and everything looked up in them is. -/
theorem eq_of_fields {m n : NetworkFacts} (bins : m.bins = n.bins)
    (warnings : ∀ hostname, m.warnings.get? hostname = n.warnings.get? hostname)
    (failures : ∀ hostname, m.failures.get? hostname = n.failures.get? hostname) : m = n := by
  obtain ⟨_, _, _⟩ := m
  obtain ⟨_, _, _⟩ := n
  obtain rfl := bins
  obtain rfl := SortedMap.eq_of_get? warnings
  obtain rfl := SortedMap.eq_of_get? failures
  rfl

variable (n : NetworkFacts)

private theorem warn_bins (hostname : String) (warnings : List Warning) :
    (n.warn hostname warnings).bins = n.bins := by
  unfold warn
  split <;> rfl

private theorem warn_failures (hostname : String) (warnings : List Warning) :
    (n.warn hostname warnings).failures = n.failures := by
  unfold warn
  split <;> rfl

/-- What stands under a name when warnings come behind those that stand there. -/
def joinWarnings (before : Option (List Warning)) (warnings : List Warning) :
    Option (List Warning) :=
  if warnings.isEmpty then before else some (before.getD [] ++ warnings)

private theorem joinWarnings_append (before : Option (List Warning)) (ws vs : List Warning) :
    joinWarnings (joinWarnings before ws) vs = joinWarnings before (ws ++ vs) := by
  cases ws with
  | nil => rfl
  | cons w ws =>
      cases vs with
      | nil => rw [List.append_nil]; rfl
      | cons v vs => exact congrArg some (List.append_assoc _ _ _)

private theorem warn_warnings_self (hostname : String) (warnings : List Warning) :
    (n.warn hostname warnings).warnings.get? hostname =
      joinWarnings (n.warnings.get? hostname) warnings := by
  unfold warn joinWarnings
  by_cases none : warnings.isEmpty
  · simp only [none, ↓reduceIte]
  · simp only [none, Bool.false_eq_true, ↓reduceIte, SortedMap.get?_insert_self]

private theorem warn_warnings_of_ne {hostname other : String} (different : hostname ≠ other)
    (warnings : List Warning) :
    (n.warn hostname warnings).warnings.get? other = n.warnings.get? other := by
  unfold warn
  by_cases none : warnings.isEmpty
  · simp only [none, ↓reduceIte]
  · simp only [none, Bool.false_eq_true, ↓reduceIte, SortedMap.get?_insert_of_ne _ different]

private theorem add_warnings (r : Report) :
    (n.add r).warnings = (n.warn r.hostname r.warnings).warnings := by
  unfold add
  cases r.result <;> rfl

/-- The merged bins are those of the reports without a failure. -/
theorem foldl_add_bins (reports : List Report) :
    (reports.foldl add n).bins =
      (reports.filterMap fun r => r.result.toOption).foldl Bins.append n.bins := by
  induction reports generalizing n with
  | nil => rfl
  | cons r rest ih =>
      rw [List.foldl_cons, ih, List.filterMap_cons]
      unfold add
      cases result : r.result with
      | ok bins =>
          simp only [warn_bins, Except.toOption, List.foldl_cons]
          rfl
      | error failure => simp only [warn_bins, Except.toOption]

/-- The merged warnings under a name are those of all reports with that name. -/
theorem foldl_add_warnings (reports : List Report) (hostname : String) :
    (reports.foldl add n).warnings.get? hostname =
      joinWarnings (n.warnings.get? hostname)
        ((reports.filter fun r => r.hostname = hostname).flatMap Report.warnings) := by
  induction reports generalizing n with
  | nil => rfl
  | cons r rest ih =>
      rw [List.foldl_cons, ih, add_warnings, List.filter_cons]
      by_cases same : r.hostname = hostname
      · subst same
        simp only [decide_true, ↓reduceIte, List.flatMap_cons]
        rw [warn_warnings_self, joinWarnings_append]
      · simp only [same, decide_false, Bool.false_eq_true, ↓reduceIte]
        rw [warn_warnings_of_ne n same]

/-- The merged failure under a name is the last one of the reports with that name. -/
theorem foldl_add_failures (reports : List Report) (hostname : String) :
    (reports.foldl add n).failures.get? hostname =
      ((reports.filter fun r => r.hostname = hostname).filterMap
        fun r => failureOf? r.result).getLast?.or (n.failures.get? hostname) := by
  induction reports generalizing n with
  | nil => rfl
  | cons r rest ih =>
      rw [List.foldl_cons, ih, List.filter_cons]
      cases result : r.result with
      | ok bins =>
          have unchanged : (n.add r).failures = n.failures := by
            simp only [add, result, warn_failures]
          rw [unchanged]
          by_cases same : r.hostname = hostname
          · simp only [same, decide_true, ↓reduceIte, List.filterMap_cons, result, failureOf?]
          · simp only [same, decide_false, Bool.false_eq_true, ↓reduceIte]
      | error failure =>
          have inserted : (n.add r).failures = n.failures.insert r.hostname failure := by
            simp only [add, result, warn_failures]
          rw [inserted]
          by_cases same : r.hostname = hostname
          · subst same
            simp only [decide_true, ↓reduceIte, List.filterMap_cons, result, failureOf?]
            rw [SortedMap.get?_insert_self, List.getLast?_cons]
            cases List.getLast? _ <;> rfl
          · simp only [same, decide_false, Bool.false_eq_true, ↓reduceIte]
            rw [SortedMap.get?_insert_of_ne _ same]

/-- The bins of a network are those of the devices that succeed, in the order of their reports. -/
theorem ofReports_bins (reports : List Report) :
    (ofReports reports).bins = .concat (reports.filterMap fun r => r.result.toOption) :=
  foldl_add_bins empty reports

/-- The warnings of a hostname are those of all its reports, in their order. -/
theorem ofReports_warnings (reports : List Report) (hostname : String) :
    (ofReports reports).warnings.get? hostname =
      joinWarnings none
        ((reports.filter fun r => r.hostname = hostname).flatMap Report.warnings) :=
  foldl_add_warnings empty reports hostname

/-- The failure of a hostname is the last one in its reports. -/
theorem ofReports_failures (reports : List Report) (hostname : String) :
    (ofReports reports).failures.get? hostname =
      ((reports.filter fun r => r.hostname = hostname).filterMap
        fun r => failureOf? r.result).getLast? := by
  have merged := foldl_add_failures empty reports hostname
  rwa [show empty.failures.get? hostname = none from rfl, Option.or_none] at merged

end NetworkFacts

end ConfigFacts
