import ConfigFacts.Network

/-!
# Dealing out devices

The workers take the devices in turn. Together they get every device exactly once
(`Network.jobs_partition`), so the reports that are gathered are those of one pass over the network,
in another order (`Network.gather_perm`).
-/

namespace ConfigFacts.Network

variable {α : Type}

/-- Every further element stands one gap and one place behind the one before. -/
theorem getElem?_everyFrom (gap start k : Nat) (xs : List α) :
    (everyFrom gap start xs)[k]? = xs[start + k * (gap + 1)]? := by
  induction xs generalizing start k with
  | nil => simp [everyFrom]
  | cons x xs ih =>
      cases start with
      | succ start =>
          rw [everyFrom, ih, Nat.add_right_comm, List.getElem?_cons_succ]
      | zero =>
          cases k with
          | zero => simp [everyFrom]
          | succ k =>
              have place : 0 + (k + 1) * (gap + 1) = gap + k * (gap + 1) + 1 := by
                rw [Nat.succ_mul]
                omega
              rw [everyFrom, List.getElem?_cons_succ, ih, place, List.getElem?_cons_succ]

private theorem everyFrom_sublist (gap start : Nat) (xs : List α) :
    (everyFrom gap start xs).Sublist xs := by
  induction xs generalizing start with
  | nil => exact List.Sublist.refl _
  | cons x xs ih =>
      cases start with
      | zero => exact (ih gap).cons_cons x
      | succ start => exact (ih start).cons x

/-- The elements that start at different places and have the same gap between them are all elements.
The first element of a list goes to the start `0`, which then stands where the last start stood. -/
theorem everyFrom_perm (gap : Nat) (xs : List α) :
    ((List.range (gap + 1)).flatMap fun start => everyFrom gap start xs).Perm xs := by
  induction xs with
  | nil =>
      have none : ∀ start ∈ List.range (gap + 1), everyFrom gap start ([] : List α) = [] :=
        fun start _ => by cases start <;> rfl
      rw [List.flatMap_eq_nil_iff.2 none]
  | cons x xs ih =>
      have others : ((List.range (gap + 1)).flatMap fun start => everyFrom gap start (x :: xs)) =
          x :: (everyFrom gap gap xs
            ++ (List.range gap).flatMap fun start => everyFrom gap start xs) := by
        rw [List.range_succ_eq_map, List.flatMap_cons, List.flatMap_map]
        rfl
      have turned : (everyFrom gap gap xs
            ++ (List.range gap).flatMap fun start => everyFrom gap start xs).Perm
          ((List.range (gap + 1)).flatMap fun start => everyFrom gap start xs) := by
        rw [List.range_succ, List.flatMap_append, List.flatMap_singleton]
        exact List.perm_append_comm
      rw [others]
      exact (turned.trans ih).cons x

/-- There is a worker for any number of devices. -/
theorem workerCount_pos (processors : Nat) (requested : Option Nat) (devices : Nat) :
    0 < workerCount processors requested devices := by
  unfold workerCount
  omega

/-- There are no more workers than devices, but for the one that is always there. -/
theorem workerCount_le (processors : Nat) (requested : Option Nat) (devices : Nat) :
    workerCount processors requested devices ≤ max 1 devices := by
  unfold workerCount
  omega

section Jobs

variable {devices : List Device} {workers : Nat}

/-- A worker gets the device at its own number, and from there on every device that is as far behind
the one before as there are workers. -/
theorem getElem?_jobs (positive : 0 < workers) (worker k : Nat) :
    (jobs devices workers worker)[k]? = devices.zipIdx[worker + k * workers]? := by
  unfold jobs
  rw [getElem?_everyFrom, Nat.sub_add_cancel positive]

/-- The jobs of all workers are the devices, each one once. -/
theorem jobs_perm (positive : 0 < workers) :
    ((List.range workers).flatMap (jobs devices workers)).Perm devices.zipIdx := by
  have dealt := everyFrom_perm (workers - 1) devices.zipIdx
  rwa [Nat.sub_add_cancel positive] at dealt

/-- The positions in a list ascend. -/
theorem zipIdx_ascending (xs : List α) : xs.zipIdx.Pairwise fun a b => a.2 < b.2 := by
  have positions : (xs.zipIdx.map Prod.snd).Pairwise (· < ·) := by
    rw [List.zipIdx_map_snd]
    exact List.pairwise_lt_range'
  exact List.pairwise_map.1 positions

private theorem jobs_ascending (devices : List Device) (workers worker : Nat) :
    (jobs devices workers worker).Pairwise fun a b => a.2 < b.2 :=
  (zipIdx_ascending devices).sublist (everyFrom_sublist _ _ _)

/-- There are not more workers than devices, so every worker has a device at its own number. -/
theorem jobs_eq_nil_iff {worker : Nat} (few : workers ≤ max 1 devices.length)
    (listed : worker < workers) : jobs devices workers worker = [] ↔ devices = [] := by
  constructor
  · intro none
    have first : (jobs devices workers worker)[0]? = devices.zipIdx[worker + 0 * workers]? :=
      getElem?_jobs (Nat.zero_lt_of_lt listed) worker 0
    rw [none, Nat.zero_mul, Nat.add_zero] at first
    have short := List.getElem?_eq_none_iff.1 first.symm
    rw [List.length_zipIdx] at short
    exact List.eq_nil_of_length_eq_zero (by omega)
  · rintro rfl
    exact List.sublist_nil.1 (everyFrom_sublist _ _ _)

end Jobs

/-- **The jobs are a partition of the devices.** There is a worker, and not more workers than
devices unless there are no devices. Together the workers get every device once, with its position;
each gets every `workers`-th one from its own number on, in ascending order, and none goes idle
while there are devices. -/
theorem jobs_partition (processors : Nat) (requested : Option Nat) (devices : List Device) :
    let workers := workerCount processors requested devices.length
    (1 ≤ workers ∧ workers ≤ max 1 devices.length) ∧
      ((List.range workers).flatMap (jobs devices workers)).Perm devices.zipIdx ∧
      ∀ worker : Fin workers,
        (∀ k : Nat, (jobs devices workers worker)[k]? = devices.zipIdx[worker + k * workers]?) ∧
          ((jobs devices workers worker).Pairwise fun a b => a.2 < b.2) ∧
          (jobs devices workers worker = [] ↔ devices = []) := by
  intro workers
  have positive : 0 < workers := workerCount_pos processors requested devices.length
  have few : workers ≤ max 1 devices.length := workerCount_le processors requested devices.length
  refine ⟨⟨positive, few⟩, jobs_perm positive, fun worker => ⟨?_, ?_, ?_⟩⟩
  · exact getElem?_jobs positive worker
  · exact jobs_ascending devices workers worker
  · exact jobs_eq_nil_iff few worker.isLt

/-- The reports of any number of workers are one report for each device. -/
theorem gather_perm (devices : List Device) {workers : Nat} (positive : 0 < workers) :
    (gather devices workers).Perm
      (devices.zipIdx.map fun (d, i) => report (communities devices) d i) := by
  have together : gather devices workers =
      ((List.range workers).flatMap fun worker => jobs devices workers worker).map
        fun (d, i) => report (communities devices) d i := by
    rw [List.map_flatMap]
    rfl
  rw [together]
  exact (jobs_perm positive).map _

end ConfigFacts.Network
