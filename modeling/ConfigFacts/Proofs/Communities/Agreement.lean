import ConfigFacts.Proofs.Communities.Influence
import ConfigFacts.Proofs.Network.Facts
import ConfigFacts.Proofs.Relations.Columns

/-!
# The communities of a network and its facts

The communities of a device are collected from its policy maps before anything is written, and the
facts on set lines are written clause by clause later. Both goings-through meet the same communities
in the same order (`Device.policyCommunities_extract`). So the communities of a complete network are
those in its facts on policy maps, and community lists match no others
(`Network.communities_agree_with_facts`).
-/

namespace ConfigFacts

open ConfigFacts.Fact (Within)

/-- The facts in which a policy map changes the communities of routes. -/
def FactKind.communityChanges : List FactKind :=
  [.clauseAddCommunity, .clauseSetCommunity]

/-- The communities that policy maps add or set, as they stand in the facts. -/
def Fact.policyCommunities (fs : List Fact) : List (Option Field) :=
  column FactKind.communityChanges 2 fs

/-- A community as it stands in a fact. -/
def Community.entry (c : Community) : Option Field :=
  some (c : Field)

namespace Device

variable (hostname : String) (map : QualifiedName) (i : Nat)

/-- The facts of a set line are about the communities that it adds or sets. -/
theorem policyCommunities_setLine (line : SetLine) :
    Fact.policyCommunities (setLineOf hostname map i line).facts =
      line.communities.map Community.entry := by
  cases line with
  | addCommunities cs | setCommunities cs =>
      exact Fact.column_map (Within.map (fun _ => rfl) cs) fun _ => rfl
  | nextHops addresses => exact Fact.column_eq_nil (Within.map (fun _ => rfl) addresses)
  | asPathPrepend | clearCommunities | deleteCommunities | localPreference | metric | originType =>
      rfl

/-- The facts of a match line change no communities. -/
theorem policyCommunities_matchLine (line : MatchLine) :
    Fact.policyCommunities (matchLineOf hostname map i line).facts = [] := by
  cases line with
  | asPathAccessLists | neighbor => rfl
  | communityLists names | accessLists names | protocols names | routeFilters names | tags names =>
      exact Fact.column_eq_nil (Within.map (fun _ => rfl) names)

private theorem policyCommunities_clause {clause : PolicyClause}
    (sound : (clauseOf hostname map i clause).failure = none) :
    Fact.policyCommunities (clauseOf hostname map i clause).facts =
      (clause.setLines.flatMap SetLine.communities).map Community.entry := by
  unfold clauseOf at sound ⊢
  have setting := sound
  rw [Extraction.failure_append, Option.or_eq_none_iff] at setting
  have matching := setting.1
  rw [Extraction.failure_append, Option.or_eq_none_iff] at matching
  have mark : Fact.policyCommunities (clauseActionOf map i clause.action).facts = [] := by
    cases clause.action <;> rfl
  have matched : Fact.policyCommunities
      (Extraction.each clause.matchLines (matchLineOf hostname map i)).facts = [] := by
    apply (Fact.column_each matching.2 fun line _ _ =>
      policyCommunities_matchLine hostname map i line).trans
    exact List.flatMap_eq_nil_iff.2 fun _ _ => rfl
  have set : Fact.policyCommunities
      (Extraction.each clause.setLines (setLineOf hostname map i)).facts =
        clause.setLines.flatMap fun line => line.communities.map Community.entry :=
    Fact.column_each setting.2 fun line _ _ => policyCommunities_setLine hostname map i line
  calc Fact.policyCommunities _
      = Fact.policyCommunities (clauseActionOf map i clause.action).facts ++
          Fact.policyCommunities
            (Extraction.each clause.matchLines (matchLineOf hostname map i)).facts ++
          Fact.policyCommunities
            (Extraction.each clause.setLines (setLineOf hostname map i)).facts := by
        rw [Extraction.facts_append_of_none _ _ sound,
          Extraction.facts_append_of_none _ _ setting.1]
        unfold Fact.policyCommunities
        rw [Fact.column_append, Fact.column_append]
    _ = (clause.setLines.flatMap SetLine.communities).map Community.entry := by
        rw [mark, matched, set, List.append_nil, List.nil_append, List.map_flatMap]

/-- The communities in the facts on the policy maps of a device are those that are collected from
them, in the same order and as often. -/
theorem policyCommunities_extract {d : Device} {known : CommunitySet}
    (sound : (d.extract known).failure = none) :
    Fact.policyCommunities (d.extract known).facts = d.communityList.map Community.entry := by
  have changes : ∀ k ∈ FactKind.communityChanges, k.family? = some .policyMaps := by decide
  have maps : d.policyClauses.failure = none := Device.failure_family sound .policyMaps
  have clauses (name : String) (m : PolicyMap) (passed : (Extraction.eachIndexed m.clauses
        (clauseOf d.hostname (qualify d.hostname name))).failure = none) :
      Fact.policyCommunities (Extraction.eachIndexed m.clauses
        (clauseOf d.hostname (qualify d.hostname name))).facts =
      m.communityList.map Community.entry := by
    unfold PolicyMap.communityList
    rw [List.map_flatMap]
    exact Fact.column_eachIndexed passed fun j clause =>
      policyCommunities_clause d.hostname (qualify d.hostname name) j
  calc Fact.policyCommunities (d.extract known).facts
      = Fact.policyCommunities d.policyClauses.facts :=
        column_extract sound changes 2
    _ = d.policyMaps.entries.flatMap fun e => e.2.communityList.map Community.entry :=
        Fact.column_each maps fun e _ => clauses e.1 e.2
    _ = d.communityList.map Community.entry := by
        rw [communityList, SortedMap.values, List.flatMap_map, List.map_flatMap]

/-- The communities in the facts on policy maps are those of the device. -/
theorem mem_policyCommunities_iff {d : Device} {known : CommunitySet}
    (sound : (d.extract known).failure = none) {x : Option Field} :
    x ∈ Fact.policyCommunities (d.extract known).facts ↔
      ∃ c ∈ d.communities.members, x = c.entry := by
  rw [policyCommunities_extract sound, List.mem_map]
  constructor
  · rintro ⟨c, listed, rfl⟩
    exact ⟨c, (CommunitySet.mem_ofList _ c).2 listed, rfl⟩
  · rintro ⟨c, member, rfl⟩
    exact ⟨c, (CommunitySet.mem_ofList _ c).1 member, rfl⟩

end Device

namespace Network

variable {processors : Nat} {requested : Option Nat} {devices : List Device}

/-- The communities of a network are those of its devices. -/
theorem mem_communities_iff {c : Community} :
    c ∈ (communities devices).members ↔ ∃ d ∈ devices, c ∈ d.communities.members := by
  simp only [communities, Device.communities, CommunitySet.mem_ofList, List.mem_flatMap]

/-- The communities in the facts of a complete network are those of its devices. -/
theorem mem_policyCommunities_facts_iff
    (complete : (extract processors requested devices).isComplete = true) {x : Option Field} :
    x ∈ Fact.policyCommunities (facts devices) ↔
      ∃ c ∈ (communities devices).members, x = c.entry := by
  have sound := (isComplete_iff processors requested devices).1 complete
  have gathered : x ∈ Fact.policyCommunities (facts devices) ↔
      ∃ d ∈ devices, x ∈ Fact.policyCommunities (d.extract (communities devices)).facts := by
    unfold Fact.policyCommunities
    rw [Fact.mem_column_iff]
    constructor
    · rintro ⟨f, member, shown⟩
      obtain ⟨d, listed, found⟩ := (mem_facts_of_isComplete complete).1 member
      exact ⟨d, listed, Fact.mem_column_iff.2 ⟨f, found, shown⟩⟩
    · rintro ⟨d, listed, column⟩
      obtain ⟨f, found, shown⟩ := Fact.mem_column_iff.1 column
      exact ⟨f, (mem_facts_of_isComplete complete).2 ⟨d, listed, found⟩, shown⟩
  rw [gathered]
  constructor
  · rintro ⟨d, listed, column⟩
    obtain ⟨c, own, rfl⟩ := (Device.mem_policyCommunities_iff (sound d listed)).1 column
    exact ⟨c, mem_communities_iff.2 ⟨d, listed, own⟩, rfl⟩
  · rintro ⟨c, member, rfl⟩
    obtain ⟨d, listed, own⟩ := mem_communities_iff.1 member
    exact ⟨d, listed, (Device.mem_policyCommunities_iff (sound d listed)).2 ⟨c, own, rfl⟩⟩

/-- A device that adds `1:1` to routes in one clause and sets `1:2` on them in another. -/
def tagger : Device :=
  { Device.lister with policyMaps := .ofList [("tag", ⟨[
    ⟨.permit, [.tags [7]], [.metric 5, .addCommunities [⟨65537⟩]]⟩,
    ⟨.deny, [], [.setCommunities [⟨65538⟩], .clearCommunities]⟩]⟩)] }

end Network

end ConfigFacts
