import ConfigFacts.Proofs.Network.Facts
import ConfigFacts.Proofs.Relations.Conformance

/-!
# Names of structures in a network

In facts the structures of a device go by qualified names, a colon between the hostname and their own
name. Hostnames may hold colons too, so structures of two devices can get the same name, also when
the hostnames differ (`Network.names_not_always_apart`). They do so only when one of the hostnames
goes on behind the other one and a colon (`Network.names_collide_only_behind_colon`).
-/

namespace ConfigFacts

/-- A hostname starts with another one and a colon. -/
def QualifiedName.Continues (h h' : String) : Prop :=
  ∃ s, h' = h ++ ":" ++ s

namespace QualifiedName

variable {h h' l l' : String}

/-- The text of a qualified name has a colon between its parts. -/
theorem toList_toString (q : QualifiedName) :
    (toString q).toList = q.hostname.toList ++ ':' :: q.localName.toList := by
  change (q.hostname ++ ":" ++ q.localName).toList = _
  rw [String.toList_append, String.toList_append, List.append_assoc]
  rfl

private theorem continues_of_toList {rest : List Char}
    (longer : h'.toList = h.toList ++ ':' :: rest) :
    Continues h h' := by
  refine ⟨String.ofList rest, String.toList_injective ?_⟩
  simp only [longer, String.toList_append, String.toList_ofList, List.append_assoc]
  rfl

/-- Equal texts of names with different hostnames are cut at different colons. -/
theorem continues_of_toString_eq (different : h ≠ h')
    (same : toString (qualify h l) = toString (qualify h' l')) : Continues h h' ∨ Continues h' h := by
  have texts := congrArg String.toList same
  rw [toList_toString, toList_toString] at texts
  have nonempty {rest : List Char} {s t : String} (longer : t.toList = s.toList ++ rest)
      (other : s ≠ t) : rest ≠ [] := by
    rintro rfl
    rw [List.append_nil] at longer
    exact other (String.toList_injective longer.symm)
  rcases List.append_eq_append_iff.1 texts with ⟨rest, longer, shorter⟩ | ⟨rest, longer, shorter⟩
  · obtain ⟨c, rest, rfl⟩ := List.exists_cons_of_ne_nil (nonempty longer different)
    obtain rfl : ':' = c := (List.cons.inj shorter).1
    exact .inl (continues_of_toList longer)
  · obtain ⟨c, rest, rfl⟩ := List.exists_cons_of_ne_nil (nonempty longer different.symm)
    obtain rfl : ':' = c := (List.cons.inj shorter).1
    exact .inr (continues_of_toList longer)

private theorem exists_toString_eq (longer : Continues h h') :
    ∃ l l', toString (qualify h l) = toString (qualify h' l') := by
  obtain ⟨s, rfl⟩ := longer
  refine ⟨s ++ ":", "", String.toList_injective ?_⟩
  simp only [toList_toString, qualify, String.toList_append, List.append_assoc, String.toList_empty]
  rfl

/-- Two different hostnames have structures of one name between them exactly when one of them goes on
behind the other one and a colon. -/
theorem exists_toString_eq_iff (different : h ≠ h') :
    (∃ l l', toString (qualify h l) = toString (qualify h' l')) ↔
      Continues h h' ∨ Continues h' h := by
  constructor
  · rintro ⟨l, l', same⟩
    exact continues_of_toString_eq different same
  · rintro (longer | longer)
    · exact exists_toString_eq longer
    · obtain ⟨l, l', same⟩ := exists_toString_eq longer
      exact ⟨l', l, same.symm⟩

end QualifiedName

open QualifiedName (Continues)

namespace Network

/-- A fact about a structure of a device starts with the qualified name of the structure. -/
theorem head_texts_of_ownName {d : Device} {known : CommunitySet} {f : Fact}
    (member : f ∈ d.contribution known) (own : f.kind.columns.head? = some .ownName) :
    ∃ name, f.texts.head? = some (toString (qualify d.hostname name)) := by
  have row := Device.conforms_extract (Device.mem_contribution_iff.1 member).2
  unfold Fact.Conforms at row
  obtain ⟨rest, columns⟩ := List.head?_eq_some_iff.1 own
  rw [columns] at row
  obtain ⟨name, start⟩ := row.head_of_ownName
  refine ⟨name, ?_⟩
  rw [Fact.texts, List.head?_map, start]
  rfl

/-- **Structures of different devices collide only behind a colon.** For two different hostnames there
are structures with one qualified name exactly when one hostname starts with the other one and a
colon. In the bins of a network, facts about structures of two devices whose hostnames are not of
this kind have different names: the lines of access lists, route filters and community lists and the
clauses of policy maps, and all that refers to them by their first columns. -/
theorem names_collide_only_behind_colon (processors : Nat) (requested : Option Nat)
    (devices : List Device) :
    (∀ h h' : String, h ≠ h' →
      ((∃ l l', toString (qualify h l) = toString (qualify h' l')) ↔
        Continues h h' ∨ Continues h' h)) ∧
      (extract processors requested devices).bins = .ofFacts ((visits devices).flatMap fun v =>
        v.1.contribution (communities devices)) ∧
      ∀ d ∈ devices, ∀ e ∈ devices, d.hostname ≠ e.hostname →
        ¬Continues d.hostname e.hostname → ¬Continues e.hostname d.hostname →
          ∀ f ∈ d.contribution (communities devices), ∀ g ∈ e.contribution (communities devices),
            f.kind.columns.head? = some .ownName → g.kind.columns.head? = some .ownName →
              f.texts.head? ≠ g.texts.head? := by
  refine ⟨fun h h' different => QualifiedName.exists_toString_eq_iff different,
    extract_bins processors requested devices, ?_⟩
  intro d _ e _ different behind before f left g right ownLeft ownRight same
  obtain ⟨name, start⟩ := head_texts_of_ownName left ownLeft
  obtain ⟨other, second⟩ := head_texts_of_ownName right ownRight
  rw [start, second] at same
  have longer := QualifiedName.continues_of_toString_eq different (Option.some.inj same)
  exact longer.elim behind before

/-- A line that accepts what two wildcards without free bits leave of a protocol. -/
def hostLine (protocol : Protocol) : AccessListLine :=
  ⟨.accept, protocol, .zero, .zero, .zero, .zero, [], []⟩

/-- A device with one access list of one line. -/
def listed (hostname name : String) (protocol : Protocol) : Device :=
  { Device.named hostname "cisco" with
    accessLists := .ofList [(name, ⟨[hostLine protocol]⟩)] }

theorem names_collide_only_behind_colon_of_listed :
    ¬Continues "a" "b" ∧ ¬Continues "b" "a" ∧
      (Device.accessLineFact (qualify "a" "c") 0 (hostLine .tcp)).texts.head? ≠
        (Device.accessLineFact (qualify "b" "c") 0 (hostLine .udp)).texts.head? := by
  have shorter {s t : String} (size : t.toList.length ≤ s.toList.length) : ¬Continues s t := by
    rintro ⟨rest, rfl⟩
    simp only [String.toList_append, List.length_append] at size
    have colon : ":".toList.length = 1 := rfl
    omega
  have forward : ¬Continues "a" "b" := shorter (by decide)
  have backward : ¬Continues "b" "a" := shorter (by decide)
  refine ⟨forward, backward, ?_⟩
  have apart := names_collide_only_behind_colon 1 none [listed "a" "c" .tcp, listed "b" "c" .udp]
  exact apart.2.2 _ (.head _) _ (.tail _ (.head _)) (by decide) forward backward _
    (by decide +kernel) _ (by decide +kernel) rfl rfl

/-- Two devices with different hostnames can have a line of an access list under one name and number:
`b:c` of the device `a`, and `c` of the device `a:b`. -/
theorem names_not_always_apart :
    ¬ ∀ devices : List Device, (devices.map Device.hostname).Nodup →
      ∀ d ∈ devices, ∀ e ∈ devices, d ≠ e →
        ∀ f ∈ d.contribution (communities devices), ∀ g ∈ e.contribution (communities devices),
          f.kind = .accessListLine → g.kind = .accessListLine →
            f.texts.take 2 ≠ g.texts.take 2 := by
  intro apart
  have first : Device.accessLineFact (qualify "a" "b:c") 0 (hostLine .tcp) ∈
      (listed "a" "b:c" .tcp).contribution .empty := by decide +kernel
  have second : Device.accessLineFact (qualify "a:b" "c") 0 (hostLine .udp) ∈
      (listed "a:b" "c" .udp).contribution .empty := by decide +kernel
  refine apart [listed "a" "b:c" .tcp, listed "a:b" "c" .udp] (by decide) _ (.head _) _
    (.tail _ (.head _)) (by decide) _ first _ second rfl rfl ?_
  decide +kernel

end Network

end ConfigFacts
