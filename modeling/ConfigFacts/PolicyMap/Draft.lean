import ConfigFacts.PolicyMap

/-!
# Drafts of clauses

A clause is drafted step by step: an action may be chosen, match and set lines are appended. The
clause of a draft has the action chosen last, or permits if none was.
-/

namespace ConfigFacts

/-- A clause that is being put together. -/
structure ClauseDraft where
  /-- The action chosen so far. -/
  action : Option PolicyAction
  /-- The match lines so far. -/
  matchLines : List MatchLine
  /-- The set lines so far. -/
  setLines : List SetLine
  deriving DecidableEq

namespace ClauseDraft

/-- The draft without a choice. -/
def empty : ClauseDraft :=
  ⟨none, [], []⟩

/-- Chooses the action. -/
def withAction (d : ClauseDraft) (action : PolicyAction) : ClauseDraft :=
  { d with action := some action }

/-- Chooses to permit. -/
def permit (d : ClauseDraft) : ClauseDraft :=
  d.withAction .permit

/-- Chooses to deny. -/
def deny (d : ClauseDraft) : ClauseDraft :=
  d.withAction .deny

/-- Appends a match line. -/
def addMatch (d : ClauseDraft) (line : MatchLine) : ClauseDraft :=
  { d with matchLines := d.matchLines ++ [line] }

/-- Appends a set line. -/
def addSet (d : ClauseDraft) (line : SetLine) : ClauseDraft :=
  { d with setLines := d.setLines ++ [line] }

/-- Matches a community list. -/
def matchCommunityList (d : ClauseDraft) (list : String) : ClauseDraft :=
  d.addMatch (.communityLists [list])

/-- Matches an access list. -/
def matchAccessList (d : ClauseDraft) (list : String) : ClauseDraft :=
  d.addMatch (.accessLists [list])

/-- Matches a route filter. -/
def matchRouteFilter (d : ClauseDraft) (list : String) : ClauseDraft :=
  d.addMatch (.routeFilters [list])

/-- Matches a neighbor. -/
def matchNeighbor (d : ClauseDraft) (address : Address) : ClauseDraft :=
  d.addMatch (.neighbor address)

/-- Matches a protocol. -/
def matchProtocol (d : ClauseDraft) (protocol : RoutingProtocol) : ClauseDraft :=
  d.addMatch (.protocols [protocol])

/-- Matches a tag. -/
def matchTag (d : ClauseDraft) (tag : UInt32) : ClauseDraft :=
  d.addMatch (.tags [tag])

/-- Adds a community. -/
def addCommunity (d : ClauseDraft) (community : Community) : ClauseDraft :=
  d.addSet (.addCommunities [community])

/-- Replaces the communities by one. -/
def setCommunity (d : ClauseDraft) (community : Community) : ClauseDraft :=
  d.addSet (.setCommunities [community])

/-- Removes the communities that a community list matches. -/
def deleteCommunity (d : ClauseDraft) (list : String) : ClauseDraft :=
  d.addSet (.deleteCommunities list)

/-- Replaces the local preference. -/
def setLocalPreference (d : ClauseDraft) (value : UInt32) : ClauseDraft :=
  d.addSet (.localPreference value)

/-- Replaces the metric. -/
def setMetric (d : ClauseDraft) (value : UInt32) : ClauseDraft :=
  d.addSet (.metric value)

/-- Replaces the next hop. -/
def setNextHop (d : ClauseDraft) (address : Address) : ClauseDraft :=
  d.addSet (.nextHops [address])

/-- Replaces the origin type. -/
def setOriginType (d : ClauseDraft) (origin : OriginType) : ClauseDraft :=
  d.addSet (.originType origin)

/-- The clause of a draft. -/
def clause (d : ClauseDraft) : PolicyClause :=
  ⟨d.action.getD .permit, d.matchLines, d.setLines⟩

end ClauseDraft

end ConfigFacts
