import ConfigFacts.Form.Values
import ConfigFacts.PolicyMap

/-!
# JSON forms of policy maps

Match and set lines are variants: an object with the kind of line as its only member. The set line
without a payload is a name.
-/

namespace ConfigFacts

/-- The name of a policy action. -/
def PolicyAction.name : PolicyAction → String
  | .permit => "permit"
  | .deny => "deny"
  | .unrecognized => "unrecognized"

/-- The policy actions; every other name is an unrecognized one. -/
def PolicyAction.vocabulary : Vocabulary PolicyAction where
  names := [("permit", .permit), ("deny", .deny)]
  other := some .unrecognized

instance : Form PolicyAction where
  toJson a := .ofString a.name
  ofJson? _ value := PolicyAction.vocabulary.ofJson? value

/-- The name of a routing protocol in a document. -/
def RoutingProtocol.name : RoutingProtocol → String
  | .ospfE1 => "ospf_e1"
  | .ospfE2 => "ospf_e2"
  | p => toString p

/-- The routing protocols. -/
def RoutingProtocol.vocabulary : Vocabulary RoutingProtocol where
  names := [("aggregate", .aggregate), ("bgp", .bgp), ("connected", .connected), ("egp", .egp),
    ("ibgp", .ibgp), ("igp", .igp), ("ospf", .ospf), ("ospf_e1", .ospfE1), ("ospf_e2", .ospfE2),
    ("static", .static)]

instance : Form RoutingProtocol where
  toJson p := .ofString p.name
  ofJson? _ value := RoutingProtocol.vocabulary.ofJson? value

/-- The name of an origin type in a document. -/
def OriginType.name : OriginType → String
  | .egp => "egp"
  | .igp => "igp"
  | .incomplete => "incomplete"

/-- The origin types. -/
def OriginType.vocabulary : Vocabulary OriginType where
  names := [("egp", .egp), ("igp", .igp), ("incomplete", .incomplete)]

instance : Form OriginType where
  toJson o := .ofString o.name
  ofJson? _ value := OriginType.vocabulary.ofJson? value

instance : Form MatchLine where
  toJson
    | .asPathAccessLists names => .record [("as_path_access_list", toJson names)]
    | .communityLists names => .record [("community_list", toJson names)]
    | .accessLists names => .record [("ip_access_list", toJson names)]
    | .neighbor address => .record [("neighbor", toJson address)]
    | .protocols protocols => .record [("protocol", toJson protocols)]
    | .routeFilters names => .record [("route_filter_list", toJson names)]
    | .tags tags => .record [("tag", toJson tags)]
  ofJson?
    | room + 1, value => do
      let (kind, payload) ← value.variant?
      match kind with
      | "as_path_access_list" => (Form.ofJson? room payload).map .asPathAccessLists
      | "community_list" => (Form.ofJson? room payload).map .communityLists
      | "ip_access_list" => (Form.ofJson? room payload).map .accessLists
      | "neighbor" => (Form.ofJson? room payload).map .neighbor
      | "protocol" => (Form.ofJson? room payload).map .protocols
      | "route_filter_list" => (Form.ofJson? room payload).map .routeFilters
      | "tag" => (Form.ofJson? room payload).map .tags
      | _ => none
    | 0, _ => none

/-- The set line without a payload. -/
def SetLine.vocabulary : Vocabulary SetLine where
  names := [("community_none", .clearCommunities)]

/-- A set line with a payload. -/
def SetLine.ofVariant? (room : Nat) (kind : String) (payload : Json) : Option SetLine :=
  match kind with
  | "add_community" => (Form.ofJson? room payload).map .addCommunities
  | "as_path_prepend" => (Form.ofJson? room payload).map .asPathPrepend
  | "community" => (Form.ofJson? room payload).map .setCommunities
  | "delete_community" => (Form.ofJson? room payload).map .deleteCommunities
  | "local_preference" => (Form.ofJson? room payload).map .localPreference
  | "metric" => (Form.ofJson? room payload).map .metric
  | "next_hop" => (Form.ofJson? room payload).map .nextHops
  | "origin_type" => (Form.ofJson? room payload).map .originType
  | _ => none

instance : Form SetLine where
  toJson
    | .addCommunities communities => .record [("add_community", toJson communities)]
    | .asPathPrepend numbers => .record [("as_path_prepend", toJson numbers)]
    | .setCommunities communities => .record [("community", toJson communities)]
    | .clearCommunities => .ofString "community_none"
    | .deleteCommunities list => .record [("delete_community", toJson list)]
    | .localPreference value => .record [("local_preference", toJson value)]
    | .metric value => .record [("metric", toJson value)]
    | .nextHops addresses => .record [("next_hop", toJson addresses)]
    | .originType origin => .record [("origin_type", toJson origin)]
  ofJson?
    | room + 1, value =>
      (SetLine.vocabulary.ofJson? value).or (value.variant?.bind fun (kind, payload) =>
        SetLine.ofVariant? room kind payload)
    | 0, _ => none

instance : Form PolicyClause where
  toJson clause := .record [
    ("action", toJson clause.action),
    ("match_lines", toJson clause.matchLines),
    ("set_lines", toJson clause.setLines)]
  ofJson? room value := do
    let fields ← value.fields? ["action", "match_lines", "set_lines"] room
    return {
      action := ← fields.required "action"
      matchLines := ← fields.defaulted "match_lines" []
      setLines := ← fields.defaulted "set_lines" [] }

instance : Form PolicyMap where
  toJson map := .record [("clauses", toJson map.clauses)]
  ofJson? room value := do
    let fields ← value.fields? ["clauses"] room
    return { clauses := ← fields.required "clauses" }

end ConfigFacts
