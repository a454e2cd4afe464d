import ConfigFacts.Community
import ConfigFacts.Proofs.SortedMap

/-!
# Sets of communities

A set of communities is determined by its members (`CommunitySet.eq_of_members`), and the set of a
list has the members of the list (`CommunitySet.mem_ofList`). So the union of sets of lists is the
set of all lists together (`CommunitySet.union_map_ofList`). The members of a subset are a part of
those of the whole set, in the same order (`CommunitySet.members_eq_filter`).
-/

namespace ConfigFacts.CommunitySet

/-- The members of a set are the keys of its map. -/
theorem mem_members (s : CommunitySet) (c : Community) :
    c ∈ s.members ↔ s.get? c.value = some () := by
  rw [← s.mem_entries_iff]
  unfold members SortedMap.keys
  rw [List.map_map, List.mem_map]
  constructor
  · rintro ⟨⟨value, ⟨⟩⟩, present, rfl⟩
    exact present
  · intro present
    exact ⟨(c.value, ()), present, rfl⟩

/-- The set of a list has the members of the list. -/
theorem mem_ofList (cs : List Community) (c : Community) : c ∈ (ofList cs).members ↔ c ∈ cs := by
  rw [mem_members, ofList, SortedMap.get?_ofList, Option.map_eq_some_iff]
  constructor
  · rintro ⟨⟨value, ⟨⟩⟩, found, _⟩
    have listed := List.mem_reverse.1 (List.mem_of_find?_eq_some found)
    obtain ⟨member, present, equal⟩ := List.mem_map.1 listed
    have values : member.value = c.value :=
      (congrArg Prod.fst equal).trans (SortedMap.key_of_find? found)
    rwa [← show member = c from congrArg Community.mk values]
  · intro present
    have listed : (c.value, ()) ∈ (cs.map fun c => (c.value, ())).reverse :=
      List.mem_reverse.2 (List.mem_map.2 ⟨c, present, rfl⟩)
    cases found : List.find? _ _ with
    | some e => exact ⟨e, rfl, rfl⟩
    | none => exact absurd found (SortedMap.find?_ne_none listed)

/-- Sets with the same members are the same. -/
theorem eq_of_members {s t : CommunitySet} (same : ∀ c, c ∈ s.members ↔ c ∈ t.members) :
    s = t := by
  apply SortedMap.eq_of_get?
  intro k
  have found := same ⟨k⟩
  rw [mem_members, mem_members] at found
  apply Option.ext
  rintro ⟨⟩
  exact found

/-- The members of a set are listed in ascending order. -/
theorem members_sorted (s : CommunitySet) :
    s.members.Pairwise fun a b => compare a.value b.value = .lt := by
  unfold members SortedMap.keys
  rw [List.map_map, List.pairwise_map]
  exact s.sorted

theorem members_nodup (s : CommunitySet) : s.members.Nodup := by
  refine s.members_sorted.imp ?_
  rintro a b less rfl
  rw [SortedMap.compare_self] at less
  cases less

/-- The members of a subset are those of the whole set that belong to it, in the same order. -/
theorem members_eq_filter {s t : CommunitySet} (subset : ∀ c ∈ s.members, c ∈ t.members) :
    s.members = t.members.filter fun c => c ∈ s.members := by
  have same : s.members.Perm (t.members.filter fun c => c ∈ s.members) := by
    apply (List.perm_ext_iff_of_nodup s.members_nodup (t.members_nodup.filter _)).2
    intro c
    rw [List.mem_filter, decide_eq_true_eq]
    exact ⟨fun member => ⟨subset c member, member⟩, And.right⟩
  refine List.Perm.eq_of_pairwise ?_ s.members_sorted (t.members_sorted.filter _) same
  intro a b _ _ less greater
  exact absurd greater (Std.OrientedCmp.not_lt_of_lt less)

/-- The union of sets. -/
def union (sets : List CommunitySet) : CommunitySet :=
  .ofList (sets.flatMap members)

/-- The union of the sets of some lists is the set of all that they list. -/
theorem union_map_ofList {α : Type} (list : α → List Community) (xs : List α) :
    union (xs.map fun x => ofList (list x)) = ofList (xs.flatMap list) := by
  apply eq_of_members
  intro c
  unfold union
  rw [mem_ofList, mem_ofList, List.flatMap_map, List.mem_flatMap, List.mem_flatMap]
  constructor
  · rintro ⟨x, listed, member⟩
    exact ⟨x, listed, (mem_ofList _ c).1 member⟩
  · rintro ⟨x, listed, member⟩
    exact ⟨x, listed, (mem_ofList _ c).2 member⟩

end ConfigFacts.CommunitySet
