import ConfigFacts.Proofs.CommunitySet
import ConfigFacts.Proofs.Writing.Footprint

/-!
# What the communities of the network change

A device is written for the communities of a whole network. For two sets of communities, one inside
the other, the smaller one only leaves out facts: the extraction for it is the restriction of the
extraction for the larger one to the facts that the smaller one admits (`Device.extract_restrict`).
Nothing but the lines of community lists can be left out, so the outcome, the warnings and all other
bins do not depend on the communities (`Device.communities_influence`).
-/

namespace ConfigFacts

open Writing

/-- Whether a fact is about a community of a set, where it is about one that a list matches. -/
def CommunitySet.admits (s : CommunitySet) (f : Fact) : Bool :=
  f.kind ≠ .communityListLine || s.members.any fun c => f.fields[2]? = some (c : Field)

/-- The facts of a device on the communities that its lists match. -/
def Device.matchedCommunities (d : Device) (known : CommunitySet) : List Fact :=
  (d.extract known).facts.filter fun f => f.kind = .communityListLine

namespace Extraction

variable (keep : Fact → Bool)

/-- An extraction without the facts that are not kept. -/
def restrict (e : Extraction) : Extraction :=
  { e with facts := e.facts.filter keep }

private theorem restrict_append (a b : Extraction) :
    (a ++ b).restrict keep = a.restrict keep ++ b.restrict keep := by
  cases failed : a.failure with
  | none =>
      have sound : (a.restrict keep).failure = none := failed
      rw [append_of_none b failed, append_of_none _ sound]
      simp only [restrict, List.filter_append]
  | some failure =>
      have stopped : (a.restrict keep).failure = some failure := failed
      rw [append_of_failure b failed, append_of_failure _ stopped]

/-- Leaving out facts of a list of extractions is leaving them out of each one. -/
theorem restrict_each {α : Type} (extract : α → Extraction) (xs : List α) :
    (each xs extract).restrict keep = each xs fun x => (extract x).restrict keep := by
  induction xs with
  | nil => rfl
  | cons x xs ih => rw [each_cons, restrict_append, ih, each_cons]

variable {keep} in
private theorem restrict_eq_self {e : Extraction} (kept : ∀ f ∈ e.facts, keep f = true) :
    e.restrict keep = e := by
  rw [restrict, List.filter_eq_self.2 kept]

end Extraction

namespace CommunitySet

private theorem admits_of_ne {s : CommunitySet} {f : Fact} (other : f.kind ≠ .communityListLine) :
    s.admits f = true := by
  simp only [admits, other, ne_eq, not_false_eq_true, decide_true, Bool.true_or]

/-- The fact on a community is admitted by the sets that the community belongs to. -/
theorem admits_communityFact (s : CommunitySet) (list : QualifiedName) (i : Nat) (c : Community) :
    s.admits (Device.communityFact list i c) = decide (c ∈ s.members) := by
  have third (other : Community) :
      (Device.communityFact list i c).fields[2]? = some (other : Field) ↔ c = other := by
    constructor
    · intro same
      have values : c.value.toNat = other.value.toNat := Field.number.inj (Option.some.inj same)
      exact congrArg Community.mk (UInt32.toNat.inj values)
    · rintro rfl
      rfl
  have line : (Device.communityFact list i c).kind = .communityListLine := rfl
  simp only [admits, line, third, ne_eq, not_true_eq_false, decide_false, Bool.false_or]
  rw [Bool.eq_iff_iff, List.any_eq_true, decide_eq_true_eq]
  constructor
  · rintro ⟨other, member, same⟩
    exact of_decide_eq_true same ▸ member
  · intro member
    exact ⟨c, member, decide_eq_true rfl⟩

end CommunitySet

/-- Of the communities of a subset, a line matches those that it matches in the whole set. -/
theorem CommunityListLine.matching?_subset {s t : CommunitySet}
    (subset : ∀ c ∈ s.members, c ∈ t.members) (line : CommunityListLine) :
    line.matching? s = (line.matching? t).map fun cs => cs.filter fun c => c ∈ s.members := by
  unfold matching?
  rw [Option.map_map]
  congr 1
  funext p
  let found (c : Community) : Bool := p.foundIn c.characters
  calc s.members.filter found
      = (t.members.filter fun c => c ∈ s.members).filter found :=
        congrArg (List.filter found) (CommunitySet.members_eq_filter subset)
    _ = (t.members.filter found).filter fun c => c ∈ s.members := by
        rw [List.filter_filter, List.filter_filter]
        exact List.filter_congr fun c _ => Bool.and_comm _ _

section restriction

variable {s t : CommunitySet} (subset : ∀ c ∈ s.members, c ∈ t.members)

include subset

private theorem Device.communityLineOf_restrict (list : QualifiedName) (i : Nat)
    (line : CommunityListLine) :
    communityLineOf s list i line = (communityLineOf t list i line).restrict s.admits := by
  unfold communityLineOf
  rw [line.matching?_subset subset]
  cases line.matching? t with
  | none => rfl
  | some cs =>
      have action : (communityActionOf list i line.action).restrict s.admits =
          communityActionOf list i line.action := by
        cases line.action <;> rfl
      have matched : (Extraction.ofFacts (cs.map fun c => communityFact list i c)).restrict
          s.admits = .ofFacts ((cs.filter fun c => c ∈ s.members).map fun c =>
            communityFact list i c) := by
        unfold Extraction.restrict Extraction.ofFacts
        simp only [List.filter_map]
        congr 2
        exact List.filter_congr fun c _ => s.admits_communityFact list i c
      simp only [Option.map_some]
      rw [Extraction.restrict_append, action, matched]

/-- Every family but the one of the community lists is the same for all sets of communities. -/
theorem Family.extract_restrict (f : Family) (d : Device) :
    f.extract d s = (f.extract d t).restrict s.admits := by
  by_cases lists : f = .communityLists
  · subst lists
    change d.communityListLines s = (d.communityListLines t).restrict s.admits
    unfold Device.communityListLines Extraction.eachIndexed
    simp only [Extraction.restrict_each, Device.communityLineOf_restrict subset]
  · have fixed : f.extract d s = f.extract d t := by
      cases f with
      | communityLists => exact absurd rfl lists
      | _ => rfl
    have silent : f.mayWrite .communityListLine = false := by
      cases f with
      | communityLists => exact absurd rfl lists
      | _ => rfl
    rw [fixed, Extraction.restrict_eq_self]
    intro fact member
    apply CommunitySet.admits_of_ne
    intro line
    have allowed := f.within d t fact member
    rw [line, silent] at allowed
    cases allowed

/-- The extraction for fewer communities is a part of the extraction for more. -/
theorem Device.extract_restrict (d : Device) :
    d.extract s = (d.extract t).restrict s.admits := by
  unfold extract
  rw [Extraction.restrict_each]
  congr 1
  funext f
  exact f.extract_restrict subset d

/-- Kinds other than those of the matched communities have the same text. -/
theorem Device.text_eq_of_ne (d : Device) {k : FactKind} (other : k ≠ .communityListLine) :
    Fact.text k (d.extract s).facts = Fact.text k (d.extract t).facts := by
  rw [d.extract_restrict subset]
  unfold Fact.text Extraction.restrict
  simp only [List.filter_filter]
  congr 2
  apply List.filter_congr
  intro f _
  by_cases own : f.kind = k
  · rw [CommunitySet.admits_of_ne (own ▸ other), Bool.and_true]
  · simp only [own, decide_false, Bool.false_and]

end restriction

/-- A fact on a matched community is about one of the network. -/
theorem Device.exists_communityFact {d : Device} {known : CommunitySet} {f : Fact}
    (member : f ∈ (d.extract known).facts) (line : f.kind = .communityListLine) :
    ∃ list i, ∃ c ∈ known.members, f = communityFact list i c := by
  obtain ⟨family, _, found⟩ := Extraction.exists_of_mem_facts_each _ member
  have allowed := family.within d known f found
  rw [line] at allowed
  cases family with
  | communityLists =>
      obtain ⟨⟨name, list⟩, _, inList⟩ := Extraction.exists_of_mem_facts_each _ found
      obtain ⟨⟨entry, i⟩, _, inLine⟩ := Extraction.exists_of_mem_facts_each _ inList
      change f ∈ (communityLineOf known (qualify d.hostname name) i entry).facts at inLine
      unfold communityLineOf at inLine
      cases matched : entry.matching? known with
      | none =>
          rw [matched] at inLine
          cases inLine
      | some cs =>
          rw [matched] at inLine
          rcases Extraction.mem_or_mem_of_mem_facts_append inLine with fact | mark
          · obtain ⟨c, listed, rfl⟩ := List.mem_map.1 fact
            obtain ⟨p, _, rfl⟩ := Option.map_eq_some_iff.1 matched
            exact ⟨_, i, c, (List.mem_filter.1 listed).1, rfl⟩
          · cases action : entry.action with
            | accept =>
                rw [action] at mark
                obtain rfl := List.mem_singleton.1 mark
                cases line
            | reject | unrecognized =>
                rw [action] at mark
                cases mark
  | _ => cases allowed

/-- **The communities of the network influence one relation.** For two sets of communities, one
inside the other, writing a device ends in the same way with the same warnings, and all bins but one
get the same text. That one gets the facts on matched communities: for the smaller set they are the
ones for the larger set whose community belongs to the smaller set, in the same order. -/
theorem Device.communities_influence {s t : CommunitySet}
    (subset : ∀ c ∈ s.members, c ∈ t.members) (d : Device) (l : Ledger) :
    ((d.write s).perform l).1 = ((d.write t).perform l).1 ∧
      ((d.write s).perform l).2.warnings = ((d.write t).perform l).2.warnings ∧
      (∀ k, k ≠ .communityListLine →
        ((d.write s).perform l).2.bins.get k = ((d.write t).perform l).2.bins.get k) ∧
      (∀ known : CommunitySet,
        ((d.write known).perform l).2.bins.get .communityListLine =
            l.bins.get .communityListLine ++
              Fact.text .communityListLine (d.matchedCommunities known) ∧
          ∀ f ∈ d.matchedCommunities known,
            ∃ list i, ∃ c ∈ known.members, f = communityFact list i c) ∧
      d.matchedCommunities s = (d.matchedCommunities t).filter fun f =>
        s.members.any fun c => f.fields[2]? = some (c : Field) := by
  have smaller := d.writes s l
  have larger := d.writes t l
  have restricted := d.extract_restrict subset
  refine ⟨?_, ?_, fun k other => ?_, fun known => ⟨?_, fun f member => ?_⟩, ?_⟩
  · rw [smaller, larger, restricted]
    rfl
  · rw [smaller, larger, restricted]
    rfl
  · rw [smaller, larger]
    simp only [Ledger.add, Bins.get_pushAll]
    rw [d.text_eq_of_ne subset other]
  · rw [d.writes known l]
    simp only [Ledger.add, Bins.get_pushAll, matchedCommunities, Fact.text, List.filter_filter,
      Bool.and_self]
  · obtain ⟨found, line⟩ := List.mem_filter.1 member
    exact exists_communityFact found (of_decide_eq_true line)
  · unfold matchedCommunities
    rw [restricted]
    unfold Extraction.restrict
    simp only [List.filter_filter]
    apply List.filter_congr
    intro f _
    by_cases line : f.kind = .communityListLine
    · simp only [CommunitySet.admits, line, ne_eq, not_true_eq_false, decide_false, decide_true,
        Bool.false_or, Bool.true_and, Bool.and_true]
    · simp only [line, decide_false, Bool.false_and, Bool.and_false]

/-- A device with one community list, which accepts the communities with `1:` in them. -/
def Device.lister : Device :=
  { Device.named "r0" "cisco" with communityLists := .ofList [("CL", ⟨[⟨.accept, "1:"⟩]⟩)] }

theorem Device.communities_influence_of_lister :
    lister.matchedCommunities (.ofList [⟨65537⟩, ⟨65538⟩, ⟨131072⟩]) =
        [communityFact ⟨"r0", "CL"⟩ 0 ⟨65537⟩, communityFact ⟨"r0", "CL"⟩ 0 ⟨65538⟩] ∧
      lister.matchedCommunities (.ofList [⟨65538⟩]) = [communityFact ⟨"r0", "CL"⟩ 0 ⟨65538⟩] ∧
      ((lister.write (.ofList [⟨65538⟩])).perform .empty).2.bins.get .communityListPermitLine =
        ((lister.write (.ofList [⟨65537⟩, ⟨65538⟩, ⟨131072⟩])).perform .empty).2.bins.get
          .communityListPermitLine := by
  have subset : ∀ c ∈ (CommunitySet.ofList [⟨65538⟩]).members,
      c ∈ (CommunitySet.ofList [⟨65537⟩, ⟨65538⟩, ⟨131072⟩]).members := by
    decide +kernel
  have all : lister.matchedCommunities (.ofList [⟨65537⟩, ⟨65538⟩, ⟨131072⟩]) =
      [communityFact ⟨"r0", "CL"⟩ 0 ⟨65537⟩, communityFact ⟨"r0", "CL"⟩ 0 ⟨65538⟩] := by
    decide +kernel
  obtain ⟨_, _, bins, _, matched⟩ := communities_influence subset lister .empty
  refine ⟨all, ?_, bins .communityListPermitLine (by decide)⟩
  rw [matched, all]
  decide +kernel

end ConfigFacts
