import ConfigFacts.Proofs.Fault.LeftBehind
import ConfigFacts.Proofs.Relations.Conformance
import ConfigFacts.Proofs.Topology.Facts

/-!
# Families are isolated

No two families write into one bin, except that the addresses of interfaces and the static routes
both come with networks, and no family writes the links of the topology
(`Family.network_of_mayWrite`, `Family.mayWrite_link`). Writing only appends, so the text of a bin
depends on the order of the programs that write into it and on nothing else. The families of a
device can be written in any order (`Device.get_writeInOrder`), and a topology before, between or
after any devices (`Contributor.writeAll_congr`). `Family.writes_in_isolation` puts this together.
-/

namespace ConfigFacts

open Writing

/-! ### The bins of families -/

namespace Family

variable {f g : Family} {k : FactKind}

/-- A family leaves the bins alone that it may not write into. -/
theorem get_perform_write (forbidden : f.mayWrite k = false) (d : Device) (known : CommunitySet)
    (l : Ledger) : ((f.write d known).perform l).2.bins.get k = l.bins.get k := by
  rw [f.writes d known l, Ledger.add, Bins.get_pushAll, text_eq_empty d known forbidden,
    String.append_empty]

/-- Only networks are written by two families. -/
theorem network_of_mayWrite (different : f ≠ g) (first : f.mayWrite k = true)
    (second : g.mayWrite k = true) :
    k = .network ∧ f.registersNetworks = true ∧ g.registersNetworks = true := by
  cases own : k.family? with
  | none =>
      simp only [mayWrite, own, reduceCtorEq, decide_false, Bool.false_or, Bool.and_eq_true,
        decide_eq_true_eq] at first second
      exact ⟨first.1, first.2, second.2⟩
  | some owner =>
      have unique {h : Family} (allowed : h.mayWrite k = true) : h = owner := by
        by_contra other
        rw [mayWrite_of_ne own other] at allowed
        cases allowed
      exact absurd ((unique first).trans (unique second).symm) different

private theorem mayWrite_link (f : Family) : f.mayWrite .samePhysicalSegment = false := by
  cases f <;> rfl

/-- At most one family writes into a bin other than that of the networks, so the order of the
families does not show in it. -/
theorem filter_mayWrite_of_perm {order : List Family} (perm : order.Perm Family.all)
    (single : k ≠ .network) :
    (order.filter fun f => f.mayWrite k) = Family.all.filter fun f => f.mayWrite k := by
  cases own : k.family? with
  | none =>
      have nobody (f : Family) : f.mayWrite k = false := by
        simp only [mayWrite, own, single, reduceCtorEq, decide_false, Bool.false_or,
          Bool.false_and]
      simp only [nobody, List.filter_false]
  | some owner =>
      rw [filter_mayWrite own (perm.nodup_iff.2 all_nodup), filter_mayWrite own all_nodup]
      simp only [perm.mem_iff]

end Family

/-! ### The order of families -/

/-- Writes the families of a device in some order. -/
def Device.writeInOrder (order : List Family) (d : Device) (known : CommunitySet) : Writing Unit :=
  order.forM fun f => f.write d known

namespace Device

variable {d : Device} {known : CommunitySet} {order : List Family} {l : Ledger}

private theorem writes_inOrder (order : List Family) (d : Device) (known : CommunitySet) :
    Writes (d.writeInOrder order known) (.each order fun f => f.extract d known) :=
  .each fun f _ => f.writes d known

/-- A device that does not fail does not fail in any order. -/
theorem failure_inOrder (sound : (d.extract known).failure = none) (order : List Family) :
    (Extraction.each order fun f => f.extract d known).failure = none :=
  Extraction.failure_each_eq_none _ fun f _ => failure_family sound f

/-- The order of the families shows in the bin of the networks only. -/
theorem get_writeInOrder (sound : (d.extract known).failure = none)
    (perm : order.Perm Family.all) {k : FactKind} (single : k ≠ .network) :
    ((d.writeInOrder order known).perform l).2.bins.get k =
      ((d.write known).perform l).2.bins.get k := by
  have text (fs : List Family) : Fact.text k (Extraction.each fs fun f => f.extract d known).facts =
      String.join ((fs.filter fun f => f.mayWrite k).map
        fun f => (f.write d known).textAlone k) := by
    rw [Extraction.facts_each_of_none _ fun f _ => failure_family sound f,
      Family.text_flatMap_filter]
  have usual : Fact.text k (d.extract known).facts = _ := text Family.all
  rw [writes_inOrder order d known l, d.writes known l, Ledger.add, Ledger.add, Bins.get_pushAll,
    Bins.get_pushAll, text order, usual,
    Family.filter_mayWrite_of_perm perm single]

end Device

/-! ### Devices and topologies in shared bins -/

/-- What writes into shared bins: the extractor of a device, or that of a topology. -/
inductive Contributor where
  /-- The use of the bins by the extractor of a device. -/
  | session (s : Session)
  /-- The links of a topology. -/
  | topology (t : Topology)

namespace Contributor

/-- The bins after a contribution. -/
def write (b : Bins) : Contributor → Bins
  | session s => (s.run b).2
  | topology t => b.pushAll t.facts

/-- The bins after some contributions, one after the other. -/
def writeAll (cs : List Contributor) (b : Bins) : Bins :=
  cs.foldl write b

def session? : Contributor → Option Session
  | session s => some s
  | topology _ => none

def topology? : Contributor → Option Topology
  | session _ => none
  | topology t => some t

/-- The text that a contribution adds to a bin. -/
def text (k : FactKind) : Contributor → String
  | session s => String.join (List.replicate s.calls (s.fresh.2.bins.get k))
  | topology t => Fact.text k t.facts

private theorem get_write (c : Contributor) (b : Bins) (k : FactKind) :
    (c.write b).get k = b.get k ++ c.text k := by
  cases c with
  | session s => exact s.run_text b k
  | topology t => exact Bins.get_pushAll b k t.facts

/-- Contributions stand in each bin one after the other. -/
theorem get_writeAll (cs : List Contributor) (b : Bins) (k : FactKind) :
    (writeAll cs b).get k = b.get k ++ String.join (cs.map (text k)) := by
  induction cs generalizing b with
  | nil => exact String.append_empty.symm
  | cons c cs ih =>
      have step : writeAll (c :: cs) b = writeAll cs (c.write b) := rfl
      rw [step, ih, get_write, List.map_cons, String.join_cons, String.append_assoc]

private theorem text_session_link (s : Session) : (session s).text .samePhysicalSegment = "" := by
  have silent : s.fresh.2.bins.get .samePhysicalSegment = "" :=
    (s.device.writes s.communities).textAlone_eq _ |>.trans
      (Fact.text_eq_empty fun f => Device.kind_ne_link)
  rw [text, silent]
  induction s.calls with
  | zero => rfl
  | succ n ih => rw [List.replicate_succ, String.join_cons, ih, String.append_empty]

/-- Contributions that leave no text in a bin do not count for it. -/
theorem join_text {β : Type} {k : FactKind} {pick : Contributor → Option β} {picked : β → String}
    (text_eq : ∀ c : Contributor, c.text k = (pick c).elim "" picked) (cs : List Contributor) :
    String.join (cs.map (text k)) = String.join ((cs.filterMap pick).map picked) := by
  induction cs with
  | nil => rfl
  | cons c cs ih =>
      rw [List.map_cons, String.join_cons, ih, text_eq, List.filterMap_cons]
      cases pick c with
      | none => exact String.empty_append
      | some a => exact (String.join_cons ..).symm

/-- How devices and topologies alternate does not show in any bin. -/
theorem writeAll_congr {cs ds : List Contributor}
    (sessions : cs.filterMap session? = ds.filterMap session?)
    (topologies : cs.filterMap topology? = ds.filterMap topology?) (b : Bins) :
    writeAll cs b = writeAll ds b := by
  apply Bins.eq_of_get
  intro k
  rw [get_writeAll, get_writeAll]
  by_cases link : k = .samePhysicalSegment
  · subst link
    have links (c : Contributor) : c.text .samePhysicalSegment =
        c.topology?.elim "" fun t => (topology t).text .samePhysicalSegment := by
      cases c with
      | session s => exact text_session_link s
      | topology t => rfl
    rw [join_text links, join_text links, topologies]
  · have devices (c : Contributor) : c.text k = c.session?.elim "" fun s => (session s).text k := by
      cases c with
      | session s => rfl
      | topology t => exact Topology.text_facts_of_ne link t
    rw [join_text devices, join_text devices, sessions]

end Contributor

/-- **Families are isolated.** A family leaves all bins but its own as they were. No two families
share a bin, except that the addresses of interfaces and the static routes both write networks, and
none writes links. So if a device can be written, it can be written in every order of its families,
with the same text in every bin but that of the networks. Topologies that are written before,
between or after devices leave the same bins. -/
theorem Family.writes_in_isolation :
    (∀ (f : Family) (d : Device) (known : CommunitySet) (l : Ledger) (k : FactKind),
      f.mayWrite k = false → ((f.write d known).perform l).2.bins.get k = l.bins.get k) ∧
    (∀ (f g : Family) (k : FactKind), f ≠ g →
      (f.mayWrite k = true ∧ g.mayWrite k = true ↔ k = .network ∧
        (f = .interfaceAddresses ∧ g = .staticRoutes ∨
          f = .staticRoutes ∧ g = .interfaceAddresses))) ∧
    (∀ f : Family, f.mayWrite .samePhysicalSegment = false) ∧
    (∀ (d : Device) (known : CommunitySet) (l : Ledger), ((d.write known).perform l).1 = .ok () →
      ∀ order : List Family, order.Perm all →
        ((d.writeInOrder order known).perform l).1 = .ok () ∧
          ∀ k, k ≠ .network → ((d.writeInOrder order known).perform l).2.bins.get k =
            ((d.write known).perform l).2.bins.get k) ∧
    ∀ (cs ds : List Contributor) (b : Bins),
      cs.filterMap Contributor.session? = ds.filterMap Contributor.session? →
      cs.filterMap Contributor.topology? = ds.filterMap Contributor.topology? →
        Contributor.writeAll cs b = Contributor.writeAll ds b := by
  refine ⟨fun f d known l k forbidden => get_perform_write forbidden d known l,
    fun f g k different => ⟨fun ⟨first, second⟩ => ?_, ?_⟩, mayWrite_link,
    fun d known l succeeded order perm => ?_,
    fun cs ds b sessions topologies => Contributor.writeAll_congr sessions topologies b⟩
  · obtain ⟨network, left, right⟩ := network_of_mayWrite different first second
    refine ⟨network, ?_⟩
    simp only [registersNetworks, Bool.or_eq_true, decide_eq_true_eq] at left right
    rcases left with rfl | rfl
    · exact .inl ⟨rfl, right.resolve_left different.symm⟩
    · exact .inr ⟨rfl, right.resolve_right different.symm⟩
  · rintro ⟨rfl, ⟨rfl, rfl⟩ | ⟨rfl, rfl⟩⟩
    · exact ⟨rfl, rfl⟩
    · exact ⟨rfl, rfl⟩
  · rw [d.writes known l] at succeeded
    have sound := Extraction.failure_eq_none_of_outcome succeeded
    refine ⟨?_, fun k single => Device.get_writeInOrder sound perm single⟩
    rw [Device.writes_inOrder order d known l]
    exact Extraction.outcome_of_none (Device.failure_inOrder sound order)

/-- A device with an interface and a default route. -/
def Device.connecting : Device :=
  { named "r0" "cisco" with
    interfaces := .ofList [("Gi0", ⟨true, some (.ofLength (.ofNat 167772161) 24),
      Interface.defaultBandwidth, none, .none, none, none, none⟩)]
    staticRoutes := [⟨.zero, 0, some (.ofNat 167772162), none, 1, 0⟩] }

/-- The last family first: only the networks change places. -/
theorem Family.writes_in_isolation_reversed :
    ((Device.connecting.write .empty).perform .empty).1 = .ok () ∧ all.reverse.Perm all ∧
      (∀ k, k ≠ .network →
        ((Device.connecting.writeInOrder all.reverse .empty).perform .empty).2.bins.get k =
          ((Device.connecting.write .empty).perform .empty).2.bins.get k) ∧
      ((Device.connecting.writeInOrder all.reverse .empty).perform .empty).2.bins.get .network ≠
        ((Device.connecting.write .empty).perform .empty).2.bins.get .network := by
  have sound : (Device.connecting.extract .empty).failure = none := by decide +kernel
  have succeeded : ((Device.connecting.write .empty).perform .empty).1 = .ok () := by
    rw [Device.connecting.writes .empty .empty]
    exact Extraction.outcome_of_none sound
  obtain ⟨_, _, _, orders, _⟩ := writes_in_isolation
  have reversed := orders Device.connecting .empty .empty succeeded all.reverse all.reverse_perm
  exact ⟨succeeded, all.reverse_perm, reversed.2, by decide +kernel⟩

end ConfigFacts
