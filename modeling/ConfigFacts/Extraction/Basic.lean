import ConfigFacts.Fact.Basic

/-!
# Extractions

An extraction is what comes out of a part of a device: facts, warnings about constructs that have
no facts, and perhaps the failure that ended it. Extractions are put one after the other; a failure
keeps what was found before it and drops what would come behind it.
-/

namespace ConfigFacts

/-- A construct that is skipped because no fact can express it. -/
inductive Warning where
  /-- A line of an access list whose free bits are not the last ones. -/
  | accessListLine (list : QualifiedName) (line : Nat)
  /-- A match line on the AS path. -/
  | asPathMatch (map : QualifiedName) (clause : Nat)
  /-- A set line that prepends AS numbers. -/
  | asPathPrepend (map : QualifiedName) (clause : Nat)
  /-- A set line that removes all communities. -/
  | clearCommunities (map : QualifiedName) (clause : Nat)
  /-- A route-filter line on the networks on the way to a more specific one. -/
  | throughLine (list : QualifiedName) (line : Nat)
  deriving DecidableEq

namespace Warning

/-- What a warning is about. -/
def subject : Warning → String
  | .accessListLine list line => s!"IpAccessList {list} line {line}"
  | .asPathMatch map clause => s!"{map}:{clause}"
  | .asPathPrepend map clause => s!"{map}:{clause}"
  | .clearCommunities map clause => s!"{map}:{clause}"
  | .throughLine list line => s!"{list}:{line}"

/-- What a warning says about its subject. -/
def remark : Warning → String
  | .accessListLine _ _ =>
    "ignored (will never be matched) because we do not know how to handle "
      ++ "non-trailing wildcard bits"
  | .asPathMatch _ _ => "Policy map matching of AS path acls not implemented!"
  | .asPathPrepend _ _ => "AS_PATH_PREPEND not implemented"
  | .clearCommunities _ _ => "COMMUNITY_NONE not implemented"
  | .throughLine _ _ => "route-filter through not implemented"

/-- The text of a warning. -/
def message (w : Warning) : String :=
  s!"WARNING: {w.subject}: {w.remark}"

end Warning

/-- A malformed part of a device, which ends its extraction. -/
inductive Failure where
  /-- A line of a list neither accepts nor rejects. -/
  | lineAction (list : QualifiedName) (line : Nat)
  /-- A clause neither permits nor denies. -/
  | policyAction (map : QualifiedName) (clause : Nat)
  /-- The layer-2 mode of an interface is outside the model. -/
  | switchport (hostname : String) (interface : String)
  /-- The metric type of an outbound policy is outside the model. -/
  | metricType (map : QualifiedName)
  /-- The text of a community-list line is no pattern. -/
  | pattern (list : QualifiedName) (line : Nat)
  deriving DecidableEq

/-- The text of a failure. -/
def Failure.message : Failure → String
  | .lineAction list line => s!"{list} line {line}: unrecognized line action"
  | .policyAction map clause => s!"{map} clause {clause}: unrecognized policy map action"
  | .switchport hostname interface => s!"{hostname}: interface {interface}: invalid switchport mode"
  | .metricType map => s!"{map}: invalid ospf metric type"
  | .pattern list line => s!"{list} line {line}: invalid community regex"

/-- What comes out of a part of a device. -/
structure Extraction where
  /-- The facts, in the order in which they are found. -/
  facts : List Fact
  /-- The warnings, in the order in which they are raised. -/
  warnings : List Warning
  /-- The failure that ended the extraction. -/
  failure : Option Failure
  deriving DecidableEq

namespace Extraction

/-- An extraction that finds nothing. -/
def empty : Extraction :=
  ⟨[], [], none⟩

/-- An extraction of facts. -/
def ofFacts (facts : List Fact) : Extraction :=
  ⟨facts, [], none⟩

/-- An extraction of one fact. -/
def fact (kind : FactKind) (fields : List Field) : Extraction :=
  ofFacts [⟨kind, fields⟩]

/-- An extraction that only warns. -/
def warn (warning : Warning) : Extraction :=
  ⟨[], [warning], none⟩

/-- An extraction that fails. -/
def fail (failure : Failure) : Extraction :=
  ⟨[], [], some failure⟩

/-- One extraction and then another one, unless the first fails. -/
def andThen (a b : Extraction) : Extraction :=
  match a.failure with
  | some _ => a
  | none => ⟨a.facts ++ b.facts, a.warnings ++ b.warnings, b.failure⟩

instance : Append Extraction :=
  ⟨andThen⟩

/-- Extractions one after the other, up to the first failure. -/
def sequence (es : List Extraction) : Extraction :=
  es.foldr andThen empty

/-- The extractions of the elements of a list, one after the other. -/
def each {α : Type} (as : List α) (extract : α → Extraction) : Extraction :=
  sequence (as.map extract)

/-- The extractions of the elements of a list with their positions, one after the other. -/
def eachIndexed {α : Type} (as : List α) (extract : Nat → α → Extraction) : Extraction :=
  each as.zipIdx fun (a, i) => extract i a

end Extraction

/-- The name of a structure of a device. -/
def qualify (hostname name : String) : QualifiedName :=
  ⟨hostname, name⟩

end ConfigFacts
