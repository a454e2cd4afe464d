import ConfigFacts.Extraction.Basic
import ConfigFacts.Proofs.Address

/-!
# Schemas of relations

Facts are built from untyped lists of fields. The schema of a relation says what these lists have to
be: which columns there are, and which two of them hold a range of addresses
(`FactKind.columns`). A row of a device fills the columns one by one (`Row`), so it has one field for
each of them (`Row.length_eq`), its names are names of the device, and its ranges are not empty
(`Row.range_at`).
-/

namespace ConfigFacts

/-- What stands in a column of a relation. -/
inductive Column where
  /-- The name of the device. -/
  | host
  /-- The name of a structure of the device. -/
  | ownName
  /-- A text. -/
  | text
  /-- A number. -/
  | number
  /-- An address. -/
  | address
  /-- A double. -/
  | double
  /-- The first address of a range. -/
  | first
  /-- The last address of the range that starts in the column before. -/
  | last
  deriving DecidableEq

/-- The columns of a relation. -/
def FactKind.columns : FactKind → List Column
  | .nodeVendor | .flowSinkInterface | .fakeInterface | .activeInterface => [.host, .text]
  | .ospfInterfaceCost | .switchportAccess | .trunkNative | .ospfInterface | .vlanInterface =>
    [.host, .text, .number]
  | .interfaceFilterIn | .interfaceFilterOut | .interfaceRoutingPolicy => [.host, .text, .ownName]
  | .interfaceIp => [.host, .text, .address, .number]
  | .trunkEncapsulation => [.host, .text, .text]
  | .trunkAllows => [.host, .text, .number, .number]
  | .linkLoadLimitIn | .linkLoadLimitOut => [.host, .text, .double]
  | .network => [.address, .first, .last, .number]
  | .accessListLine => [.ownName, .number, .number, .first, .last, .first, .last]
  | .accessListSourcePorts | .accessListDestinationPorts => [.ownName, .number, .number, .number]
  | .routeFilterLine => [.ownName, .number, .first, .last, .number, .number]
  | .accessListDenyLine | .routeFilterPermitLine | .communityListPermitLine | .clausePermit
  | .clauseDeny => [.ownName, .number]
  | .communityListLine | .clauseMatchTag | .clauseAddCommunity | .clauseSetCommunity
  | .clauseSetLocalPreference | .clauseSetMetric => [.ownName, .number, .number]
  | .clauseMatchCommunityList | .clauseMatchAccessList | .clauseMatchRouteFilter
  | .clauseDeleteCommunity => [.ownName, .number, .ownName]
  | .clauseMatchNeighbor | .clauseSetNextHop => [.ownName, .number, .address]
  | .clauseMatchProtocol | .clauseSetOriginType => [.ownName, .number, .text]
  | .ospfOutboundPolicy => [.host, .ownName]
  | .policyOspfRouteType => [.ownName, .text]
  | .ospfRouterId => [.host, .address]
  | .bgpNeighbor | .bgpSendCommunity => [.host, .address]
  | .bgpImportPolicy | .bgpExportPolicy | .bgpOriginationPolicy => [.host, .address, .ownName]
  | .routeReflectorClient | .localAs | .remoteAs | .bgpDefaultMetric => [.host, .address, .number]
  | .staticRoute => [.host, .first, .last, .number, .address, .number, .number]
  | .staticInterfaceRoute => [.host, .first, .last, .number, .address, .text, .number, .number]
  | .ospfGeneratedRoute | .bgpGeneratedRoute => [.host, .first, .last, .number]
  | .generatedRoute => [.host, .first, .last, .number, .number]
  | .neighborGeneratedRoute => [.host, .address, .first, .last, .number]
  | .ospfGeneratedRoutePolicy | .bgpGeneratedRoutePolicy | .generatedRoutePolicy =>
    [.host, .first, .last, .number, .ownName]
  | .neighborGeneratedRoutePolicy => [.host, .address, .first, .last, .number, .ownName]
  | .samePhysicalSegment => [.text, .text, .text, .text]

/-- The fields of a row under the columns of a relation, in the facts of a device. -/
inductive Row (hostname : String) : List Column → List Field → Prop
  | nil : Row hostname [] []
  | host {columns fields} (rest : Row hostname columns fields) :
    Row hostname (.host :: columns) (.text hostname :: fields)
  | ownName {name columns fields} (rest : Row hostname columns fields) :
    Row hostname (.ownName :: columns) (.name (qualify hostname name) :: fields)
  | text {s columns fields} (rest : Row hostname columns fields) :
    Row hostname (.text :: columns) (.text s :: fields)
  | number {n columns fields} (rest : Row hostname columns fields) :
    Row hostname (.number :: columns) (.number n :: fields)
  | address {a : Address} {columns fields} (rest : Row hostname columns fields) :
    Row hostname (.address :: columns) (.number a.toNat :: fields)
  | double {x columns fields} (rest : Row hostname columns fields) :
    Row hostname (.double :: columns) (.double x :: fields)
  | range {first last : Nat} {columns fields} (ordered : first ≤ last)
    (bounded : last ≤ Address.largest) (rest : Row hostname columns fields) :
    Row hostname (.first :: .last :: columns) (.number first :: .number last :: fields)

/-- A fact of a device that fits the schema of its relation. -/
def Fact.Conforms (hostname : String) (f : Fact) : Prop :=
  Row hostname f.kind.columns f.fields

namespace Row

variable {hostname : String} {columns : List Column} {fields : List Field}

/-- There is one field for each column. -/
theorem length_eq (row : Row hostname columns fields) : fields.length = columns.length := by
  induction row with
  | nil => rfl
  | host _ ih | ownName _ ih | text _ ih | number _ ih | address _ ih | double _ ih =>
      exact congrArg (· + 1) ih
  | range _ _ _ ih => exact congrArg (· + 2) ih

/-- The block of a prefix is a range. -/
theorem block (a : Address) (length : Nat) (rest : Row hostname columns fields) :
    Row hostname (.first :: .last :: columns)
      (.number a.toNat :: .number (a.networkEnd length).toNat :: fields) :=
  .range (a.toNat_le_networkEnd length) (Address.toNat_le_largest _) rest

/-- What a wildcard matches is a range. -/
theorem wildcard (a bits : Address) (rest : Row hostname columns fields) :
    Row hostname (.first :: .last :: columns)
      (.number a.toNat :: .number (a.wildcardEnd bits).toNat :: fields) :=
  .range (a.toNat_le_wildcardEnd bits) (Address.toNat_le_largest _) rest

/-- A row starts with the name of the device if the first column is for it. -/
theorem head_of_host (row : Row hostname (.host :: columns) fields) :
    fields.head? = some (.text hostname) := by
  cases row
  rfl

/-- A row with a name of the device in front starts with a name that this device qualifies. -/
theorem head_of_ownName (row : Row hostname (.ownName :: columns) fields) :
    ∃ name, fields.head? = some (.name (qualify hostname name)) := by
  cases row
  exact ⟨_, rfl⟩

/-- A range in a row is not empty, and its addresses exist. -/
theorem range_at (row : Row hostname columns fields) {i : Nat} (start : columns[i]? = some .first) :
    ∃ first last : Nat, fields[i]? = some (.number first) ∧ fields[i + 1]? = some (.number last) ∧
      first ≤ last ∧ last ≤ Address.largest := by
  induction row generalizing i with
  | nil => cases start
  | host _ ih | ownName _ ih | text _ ih | number _ ih | address _ ih | double _ ih =>
      cases i with
      | zero => cases start
      | succ i => exact ih start
  | @range first last _ _ ordered bounded _ ih =>
      match i, start with
      | 0, _ => exact ⟨first, last, rfl, rfl, ordered, bounded⟩
      | i + 2, start => exact ih start

end Row

/-- Every relation but that of networks and that of links starts with the name of a device or with
the name of a structure of it. -/
theorem FactKind.head_columns {k : FactKind} (other : k ≠ .network)
    (link : k ≠ .samePhysicalSegment) :
    k.columns.head? = some .host ∨ k.columns.head? = some .ownName := by
  cases k with
  | network => exact absurd rfl other
  | samePhysicalSegment => exact absurd rfl link
  | _ => first | exact .inl rfl | exact .inr rfl

end ConfigFacts
