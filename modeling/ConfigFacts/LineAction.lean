/-!
# Line actions

What a line of an access list, a route filter or a community list does with a match.
-/

namespace ConfigFacts

/-- The action of a line. -/
inductive LineAction where
  /-- The line accepts what it matches. -/
  | accept
  /-- The line rejects what it matches. -/
  | reject
  /-- An action outside the model. -/
  | unrecognized
  deriving DecidableEq, Inhabited

end ConfigFacts
