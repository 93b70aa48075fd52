import Cascade.Text.Basic

/-! Character classes as lists of spans of code points, both ends included. -/

namespace Cascade.Text

abbrev Spans := List (Nat × Nat)

def Spans.contains (spans : Spans) (c : Char) : Bool :=
  spans.any fun (first, last) => first ≤ c.toNat && c.toNat ≤ last

theorem Spans.contains_iff {spans : Spans} {c : Char} :
    spans.contains c = true ↔ ∃ s ∈ spans, s.1 ≤ c.toNat ∧ c.toNat ≤ s.2 := by
  simp [Spans.contains]

end Cascade.Text
