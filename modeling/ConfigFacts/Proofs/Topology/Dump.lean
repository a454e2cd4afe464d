import ConfigFacts.Proofs.Form.Editing

/-!
# Dumped topologies are read back

The dump of a topology names the members of its edges in another order than the form of the model.
It is an edited form all the same (`Topology.edits_dump`): only members have changed places. So the
topology is read from its dump, compact or indented (`Topology.read?_dump`).
-/

namespace ConfigFacts

open Form
open Shape (required)

instance : Tolerant Edge where
  shape := .record [
    required "node1" String,
    required "int1" String,
    required "node2" String,
    required "int2" String]
  tolerates := .record (fun _ _ => rfl) rfl fun edited =>
    .bind (edited.required rfl) fun _ =>
    .bind (edited.required rfl) fun _ =>
    .bind (edited.required rfl) fun _ =>
    .bind (edited.required rfl) fun _ => .refl _

instance : Tolerant Topology where
  shape := .record [required "edges" (List Edge)]
  tolerates := .record (fun _ _ => rfl) rfl fun edited =>
    .bind (edited.required rfl) fun _ => .refl _

private theorem Shape.edits_elements {α : Type} {inner : Shape} {write write' : α → Json}
    (each : ∀ a, inner.Edits (write a) (write' a)) (before : List Json) (as : List α) :
    Relation.ReflTransGen (Shape.list inner).Edits (.array (before ++ as.map write))
      (.array (before ++ as.map write')) := by
  induction as generalizing before with
  | nil => exact .refl
  | cons a later ih =>
      have rest := ih (before ++ [write' a])
      simp only [List.append_assoc, List.singleton_append] at rest
      exact rest.head (.element (each a))

/-- The dump of an edge is its form with the members by name. -/
theorem Edge.edits_dump (e : Edge) : (shape Edge).Edits (toJson e) e.dump := by
  have ends : [("node1", toJson e.node1), ("node2", toJson e.node2), ("int2", toJson e.int2)].Perm
      [("int2", toJson e.int2), ("node1", toJson e.node1), ("node2", toJson e.node2)] :=
    @List.perm_append_comm _ [_, _] [_]
  exact .permute .record ((List.Perm.swap _ _ _).trans (ends.cons _))

/-- The dump of a topology is made out of its form by an edit of each edge. -/
theorem Topology.edits_dump (t : Topology) :
    Relation.ReflTransGen (shape Topology).Edits (toJson t) t.dump := by
  have edges := Shape.edits_elements Edge.edits_dump [] t.edges
  refine edges.lift (fun value => Json.record [("edges", value)]) fun value value' edit => ?_
  exact @Shape.Edits.member _ _ [] [] _ _ _ _ _ .record rfl edit

/-- A topology is read from its dump, from the compact document and from the indented one. -/
theorem Topology.read?_dump (t : Topology) :
    Json.read? Topology t.dump.text = some t ∧
      Json.read? Topology t.dump.indentedText = some t := by
  have recovered : Recovers 3 t := Lossless.recovers t
  obtain ⟨legible, read⟩ := recovered.edited (by decide) t.edits_dump
  exact ⟨read?_of_parse? (Json.parse?_text legible) read,
    read?_of_parse? (Json.parse?_indentedText legible) read⟩

end ConfigFacts
