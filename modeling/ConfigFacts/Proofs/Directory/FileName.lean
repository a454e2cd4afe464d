import ConfigFacts.ConfigDirectory

/-!
# Stems and extensions

A file name is cut at its last point, unless nothing stands before it (`FileName.cut?`). The
configuration files of a folder are those whose extension is exactly `json`, and a file is reported
under its stem (`ConfigDirectory.stem?_eq_some_iff`).
-/

namespace ConfigFacts

namespace FileName

/-- The stem and the extension of a name: what stands before and behind its last point. A name
without a point, or with a single one in front, has no extension. -/
def cut? (name : String) : Option (String × String) :=
  let reversed := name.toList.reverse
  let stem := ((reversed.dropWhile (· != '.')).drop 1).reverse
  let extension := (reversed.takeWhile (· != '.')).reverse
  if stem = [] then none else some (String.ofList stem, String.ofList extension)

/-- The extension of a name. -/
def extension? (name : String) : Option String :=
  (cut? name).map Prod.snd

/-- The extension of a name is what is cut off behind its stem. -/
theorem extension?_eq_some_iff {name extension : String} :
    extension? name = some extension ↔ ∃ stem, cut? name = some (stem, extension) := by
  rw [extension?, Option.map_eq_some_iff]
  constructor
  · rintro ⟨⟨stem, _⟩, cut, rfl⟩
    exact ⟨stem, cut⟩
  · rintro ⟨stem, cut⟩
    exact ⟨_, cut, rfl⟩

/-- The characters before and behind the last point of a text. -/
theorem cut_at_last_point (stem : List Char) {extension : List Char} (absent : '.' ∉ extension) :
    let reversed := (stem ++ '.' :: extension).reverse
    reversed.takeWhile (· != '.') = extension.reverse ∧
      (reversed.dropWhile (· != '.')).drop 1 = stem.reverse := by
  have passed : ∀ c ∈ extension.reverse, (c != '.') = true := by
    intro c member
    refine bne_iff_ne.2 ?_
    rintro rfl
    exact absent (List.mem_reverse.1 member)
  have turned : (stem ++ '.' :: extension).reverse = extension.reverse ++ '.' :: stem.reverse := by
    rw [List.reverse_append, List.reverse_cons, List.append_assoc, List.singleton_append]
  simp only [turned]
  rw [List.takeWhile_append_of_pos passed, List.dropWhile_append_of_pos passed]
  exact ⟨List.append_nil _, rfl⟩

/-- A name is cut in exactly one way: at a point that stands behind something and before no other
point. -/
theorem cut?_eq_some_iff {name stem extension : String} :
    cut? name = some (stem, extension) ↔
      stem ≠ "" ∧ '.' ∉ extension.toList ∧ name = stem ++ "." ++ extension := by
  constructor
  · intro found
    simp only [cut?, Option.ite_none_left_eq_some, Option.some.injEq, Prod.mk.injEq] at found
    obtain ⟨something, rfl, rfl⟩ := found
    have whole := List.takeWhile_append_dropWhile (p := (· != '.')) (l := name.toList.reverse)
    cases rest : name.toList.reverse.dropWhile (· != '.') with
    | nil => exact absurd (by rw [rest]; rfl) something
    | cons c before =>
        have point : c = '.' := by
          have stopped := List.head?_dropWhile_not (· != '.') name.toList.reverse
          rw [rest] at stopped
          simpa using stopped
        rw [rest] at something whole
        refine ⟨fun empty => something ?_, ?_, ?_⟩
        · exact String.ofList_injective empty
        · rw [String.toList_ofList, List.mem_reverse]
          intro member
          exact absurd (List.all_eq_true.1 List.all_takeWhile '.' member) (by decide)
        · have turned := congrArg List.reverse whole
          rw [List.reverse_append, List.reverse_cons, List.reverse_reverse, point] at turned
          apply String.toList_injective
          simp only [String.toList_append, String.toList_ofList]
          exact turned.symm
  · rintro ⟨something, absent, rfl⟩
    obtain ⟨behind, before⟩ := cut_at_last_point stem.toList absent
    have letters : (stem ++ "." ++ extension).toList = stem.toList ++ '.' :: extension.toList := by
      rw [String.toList_append, String.toList_append, List.append_assoc]
      rfl
    have filled : stem.toList ≠ [] := fun empty => something (String.toList_injective empty)
    simp only [cut?, letters, behind, before, List.reverse_reverse, filled, ↓reduceIte,
      String.ofList_toList]

end FileName

namespace ConfigDirectory

/-- The stem of a configuration file is what stands before its extension `json`. -/
theorem stem?_eq_some_iff {name stem : String} :
    stem? name = some stem ↔ FileName.cut? name = some (stem, "json") := by
  have letters (stem : List Char) :
      (String.ofList stem ++ "." ++ "json").toList = stem ++ ".json".toList := by
    rw [String.toList_append, String.toList_append, String.toList_ofList, List.append_assoc]
    rfl
  rw [FileName.cut?_eq_some_iff]
  constructor
  · intro found
    simp only [stem?, Option.ite_none_right_eq_some, Option.some.injEq] at found
    obtain ⟨⟨something, ended⟩, rfl⟩ := found
    refine ⟨fun empty => something (String.ofList_injective empty), by decide, ?_⟩
    apply String.toList_injective
    rw [letters, ← ended]
  · rintro ⟨something, _, rfl⟩
    have filled : stem.toList ≠ [] := fun empty => something (String.toList_injective empty)
    have shortened : (stem.toList ++ ".json".toList).dropLast.dropLast.dropLast.dropLast.dropLast =
        stem.toList := by
      have ending : ".json".toList = ['.', 'j', 's', 'o', 'n'] := rfl
      simp only [ending, List.dropLast_append_cons, List.dropLast_cons_cons,
        List.dropLast_singleton, List.append_nil]
    have spelled := letters stem.toList
    rw [String.ofList_toList] at spelled
    simp only [stem?, spelled, shortened, ne_eq, filled, not_false_eq_true, and_self, ↓reduceIte,
      String.ofList_toList]

end ConfigDirectory

end ConfigFacts
