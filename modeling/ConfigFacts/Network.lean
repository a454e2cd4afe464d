import ConfigFacts.Bins
import ConfigFacts.Family.Basic

/-!
# Networks

The facts of all devices of a network. The devices are dealt out to workers, which extract them
independently; their results are put into the order of the hostnames and merged. A device whose
extraction fails contributes its warnings and its failure, and none of its facts.
-/

namespace ConfigFacts

namespace Network

/-- The communities that the devices of a network add or set. -/
def communities (devices : List Device) : CommunitySet :=
  .ofList (devices.flatMap Device.communityList)

/-- The number of workers: the one asked for, or one for each processor, but at least one and not
more than devices. -/
def workerCount (processors : Nat) (requested : Option Nat) (devices : Nat) : Nat :=
  min (max (requested.getD processors) 1) (max devices 1)

/-- The elements of a list behind some that are passed over, with a gap between any two. -/
def everyFrom {α : Type} (gap : Nat) : Nat → List α → List α
  | _, [] => []
  | 0, a :: as => a :: everyFrom gap gap as
  | k + 1, _ :: as => everyFrom gap k as

/-- The devices that one of the workers gets, with their positions: every `workers`-th one, the
first at the position that is the number of the worker. -/
def jobs (devices : List Device) (workers worker : Nat) : List (Device × Nat) :=
  everyFrom (workers - 1) worker devices.zipIdx

/-- What a worker finds out about a device. -/
structure Report where
  /-- The position of the device in the network. -/
  position : Nat
  /-- The name of the device. -/
  hostname : String
  /-- The bins of the device, or its failure. -/
  result : Except Failure Bins
  /-- The warnings about the device. -/
  warnings : List Warning

/-- The report on a device at a position. -/
def report (communities : CommunitySet) (device : Device) (position : Nat) : Report :=
  let (result, warnings) := device.writeAlone communities
  ⟨position, device.hostname, result, warnings⟩

/-- The reports of one worker. -/
def work (communities : CommunitySet) (devices : List Device) (workers worker : Nat) :
    List Report :=
  (jobs devices workers worker).map fun (device, position) => report communities device position

/-- Whether a report comes no later than another one: by hostname, then by position. -/
def Report.le (a b : Report) : Bool :=
  ((compare a.hostname b.hostname).then (compare a.position b.position)).isLE

end Network

/-- The facts of a network and what is to be said about its devices. -/
structure NetworkFacts where
  /-- The facts of all devices without a failure. -/
  bins : Bins
  /-- The warnings under the names of the devices. -/
  warnings : SortedMap String (List Warning)
  /-- The failures under the names of the devices. -/
  failures : SortedMap String Failure
  deriving DecidableEq

namespace NetworkFacts

/-- The facts of a network without devices. -/
def empty : NetworkFacts :=
  ⟨.empty, .empty, .empty⟩

/-- More warnings about a device. -/
def warn (n : NetworkFacts) (hostname : String) (warnings : List Warning) : NetworkFacts :=
  if warnings.isEmpty then n
  else
    let before := (n.warnings.get? hostname).getD []
    { n with warnings := n.warnings.insert hostname (before ++ warnings) }

/-- The facts of a network with the report on a further device. -/
def add (n : NetworkFacts) (r : Network.Report) : NetworkFacts :=
  let n := n.warn r.hostname r.warnings
  match r.result with
  | .ok bins => { n with bins := n.bins ++ bins }
  | .error failure => { n with failures := n.failures.insert r.hostname failure }

/-- The facts of a network out of the reports on its devices. -/
def ofReports (reports : List Network.Report) : NetworkFacts :=
  reports.foldl add empty

/-- Whether no device failed. -/
def isComplete (n : NetworkFacts) : Bool :=
  n.failures.entries.isEmpty

/-- The failure of the first device that failed, in the order of the hostnames. -/
def firstFailure? (n : NetworkFacts) : Option Failure :=
  n.failures.values.head?

/-- The number of warnings. -/
def warningCount (n : NetworkFacts) : Nat :=
  n.warnings.values.flatten.length

end NetworkFacts

namespace Network

/-- The reports of all workers, one worker after the other. -/
def gather (devices : List Device) (workers : Nat) : List Report :=
  (List.range workers).flatMap (work (communities devices) devices workers)

/-- The facts of the devices of a network, extracted by a number of workers. -/
def extract (processors : Nat) (requested : Option Nat) (devices : List Device) : NetworkFacts :=
  let reports := gather devices (workerCount processors requested devices.length)
  .ofReports (reports.mergeSort Report.le)

end Network

end ConfigFacts
