import ConfigFacts.CommunityList
import ConfigFacts.Form.Values
import ConfigFacts.RouteFilter

/-!
# JSON forms of lists

Access lists, route filters and community lists are records with their lines. A line of a route
filter is a tagged record, its tag is the field `type`.
-/

namespace ConfigFacts

instance : Form AccessListLine where
  toJson line := .record [
    ("action", toJson line.action),
    ("protocol", toJson line.protocol),
    ("src_ip", toJson line.source),
    ("src_wildcard", toJson line.sourceWildcard),
    ("dst_ip", toJson line.destination),
    ("dst_wildcard", toJson line.destinationWildcard),
    ("src_port_ranges", toJson line.sourcePorts),
    ("dst_port_ranges", toJson line.destinationPorts)]
  ofJson? room value := do
    let fields ← value.fields? ["action", "protocol", "src_ip", "src_wildcard", "dst_ip",
      "dst_wildcard", "src_port_ranges", "dst_port_ranges"] room
    return {
      action := ← fields.required "action"
      protocol := ← fields.defaulted "protocol" .ip
      source := ← fields.required "src_ip"
      sourceWildcard := ← fields.required "src_wildcard"
      destination := ← fields.required "dst_ip"
      destinationWildcard := ← fields.required "dst_wildcard"
      sourcePorts := ← fields.defaulted "src_port_ranges" []
      destinationPorts := ← fields.defaulted "dst_port_ranges" [] }

instance : Form AccessList where
  toJson list := .record [("lines", toJson list.lines)]
  ofJson? room value := do
    let fields ← value.fields? ["lines"] room
    return { lines := ← fields.required "lines" }

instance : Form RouteFilterLine where
  toJson
    | .lengthRange action network length lengths => .record [
      ("type", .ofString "length_range"),
      ("action", toJson action),
      ("prefix", toJson network),
      ("prefix_length", toJson length),
      ("length_range", toJson lengths)]
    | .through action network length throughNetwork throughLength => .record [
      ("type", .ofString "through"),
      ("action", toJson action),
      ("prefix", toJson network),
      ("prefix_length", toJson length),
      ("through_prefix", toJson throughNetwork),
      ("through_prefix_length", toJson throughLength)]
  ofJson? room value := do
    let (kind, rest) ← value.tagged? "type" room
    if kind = "length_range" then
      let fields ← rest.fields? ["action", "prefix", "prefix_length", "length_range"] room
      return .lengthRange (← LineAction.vocabulary.ofTagged? fields "action")
        (← fields.required "prefix") (← fields.required "prefix_length")
        (← fields.required "length_range")
    else if kind = "through" then
      let fields ← rest.fields? ["action", "prefix", "prefix_length", "through_prefix",
        "through_prefix_length"] room
      return .through (← LineAction.vocabulary.ofTagged? fields "action")
        (← fields.required "prefix") (← fields.required "prefix_length")
        (← fields.required "through_prefix") (← fields.required "through_prefix_length")
    else none

instance : Form RouteFilter where
  toJson list := .record [("lines", toJson list.lines)]
  ofJson? room value := do
    let fields ← value.fields? ["lines"] room
    return { lines := ← fields.required "lines" }

instance : Form CommunityListLine where
  toJson line := .record [("action", toJson line.action), ("regex", toJson line.pattern)]
  ofJson? room value := do
    let fields ← value.fields? ["action", "regex"] room
    return { action := ← fields.required "action", pattern := ← fields.required "regex" }

instance : Form CommunityList where
  toJson list := .record [("lines", toJson list.lines)]
  ofJson? room value := do
    let fields ← value.fields? ["lines"] room
    return { lines := ← fields.required "lines" }

end ConfigFacts
