import ConfigFacts.Community
import ConfigFacts.LineAction
import ConfigFacts.Pattern.Reader

/-!
# Community lists

Ordered lists of lines that match BGP communities by patterns on their `high:low` notation.
`CommunityListLine.matching?` selects the communities that a line matches.
-/

namespace ConfigFacts

/-- A line of a community list. -/
structure CommunityListLine where
  /-- What happens to matching routes. -/
  action : LineAction
  /-- The pattern on the notation of a community. -/
  pattern : String
  deriving DecidableEq, Inhabited

/-- The members of a set that a line matches, in ascending order, when its text is a pattern. -/
def CommunityListLine.matching? (line : CommunityListLine) (communities : CommunitySet) :
    Option (List Community) :=
  (Pattern.ofString? line.pattern).map fun p =>
    communities.members.filter fun c => p.foundIn c.characters

/-- A community list. -/
structure CommunityList where
  /-- The lines, in the order in which they are tried. -/
  lines : List CommunityListLine
  deriving DecidableEq, Inhabited

end ConfigFacts
