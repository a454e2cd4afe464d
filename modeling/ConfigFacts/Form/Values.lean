import ConfigFacts.AccessList
import ConfigFacts.Community
import ConfigFacts.Interface
import ConfigFacts.Json.Form

/-!
# JSON forms of values

Addresses are strings in dotted notation, spans are records, protocols and communities are numbers,
actions are names.
-/

namespace ConfigFacts

instance : Form Address where
  toJson a := .ofString (toString a)
  ofJson? room value := do Address.ofString? (← Form.ofJson? room value)

instance : Form Span where
  toJson s := .record [("start", toJson s.first), ("end", toJson s.last)]
  ofJson? room value := do
    let fields ← value.fields? ["start", "end"] room
    return { first := ← fields.required "start", last := ← fields.required "end" }

instance : Form Protocol where
  toJson p := toJson p.number
  ofJson? room value := (Form.ofJson? room value).map Protocol.mk

instance : Form Community where
  toJson c := toJson c.value
  ofJson? room value := (Form.ofJson? room value).map Community.mk

/-- The name of a line action. -/
def LineAction.name : LineAction → String
  | .accept => "accept"
  | .reject => "reject"
  | .unrecognized => "unrecognized"

/-- The line actions; every other name is an unrecognized one. -/
def LineAction.vocabulary : Vocabulary LineAction where
  names := [("accept", .accept), ("reject", .reject)]
  other := some .unrecognized

instance : Form LineAction where
  toJson a := .ofString a.name
  ofJson? _ value := LineAction.vocabulary.ofJson? value

instance : Form InterfaceAddress where
  toJson a := .record [("ip", toJson a.ip), ("mask", toJson a.mask)]
  ofJson? room value := do
    let fields ← value.fields? ["ip", "mask"] room
    return { ip := ← fields.required "ip", mask := ← fields.required "mask" }

end ConfigFacts
