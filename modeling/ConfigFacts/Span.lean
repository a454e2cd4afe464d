/-!
# Spans

Inclusive ranges of numbers: ports, VLANs and prefix lengths.
-/

namespace ConfigFacts

/-- The numbers from the first one to the last one. -/
structure Span where
  /-- The first number. -/
  first : UInt32
  /-- The last number. -/
  last : UInt32
  deriving DecidableEq, Inhabited

instance : ToString Span :=
  ⟨fun s => s!"{s.first.toNat}-{s.last.toNat}"⟩

end ConfigFacts
