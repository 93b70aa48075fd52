import Mathlib.Data.List.Pairwise
import Mathlib.Data.List.Perm.Basic

/-! Where no two alternatives give a result together, the order of trying them does not matter. -/

namespace Cascade

theorem mem_of_lookup_eq_some {κ α : Type} [BEq κ] [LawfulBEq κ] {key : κ}
    {entries : List (κ × α)} {a : α} (h : entries.lookup key = some a) : (key, a) ∈ entries := by
  obtain ⟨before, after, hentries, -⟩ := List.lookup_eq_some_iff.1 h
  rw [hentries]
  exact List.mem_append_right before List.mem_cons_self

variable {ι α : Type} {f : ι → Option α} {l l' : List ι}

def Exclusive (f : ι → Option α) (l : List ι) : Prop :=
  l.Pairwise fun i j => f i = none ∨ f j = none

namespace Exclusive

theorem perm (h : Exclusive f l) (hl : l.Perm l') : Exclusive f l' :=
  hl.pairwise h fun hij => hij.symm

/-- The order of the alternatives has no part in what is found. -/
theorem findSome?_eq_of_perm (h : Exclusive f l) (hl : l.Perm l') :
    l.findSome? f = l'.findSome? f := by
  induction hl with
  | nil => rfl
  | cons i _ ih => rw [List.findSome?_cons, List.findSome?_cons, ih (List.Pairwise.of_cons h)]
  -- Of two neighbours at most one gives a result, so they may change places.
  | swap i j rest =>
    have hij : f j = none ∨ f i = none := List.rel_of_pairwise_cons h List.mem_cons_self
    simp only [List.findSome?_cons]
    rcases hij with hnone | hnone
    · rw [hnone]
    · rw [hnone]
  | trans hl _ ih ih' => exact (ih h).trans (ih' (h.perm hl))

/-- A result tells which alternative it comes from. -/
theorem eq_of_isSome (h : Exclusive f l) {i j : ι} (hi : i ∈ l) (hj : j ∈ l)
    (hi' : (f i).isSome = true) (hj' : (f j).isSome = true) : i = j := by
  have : Std.Symm fun i j => f i = none ∨ f j = none := ⟨fun _ _ hij => hij.symm⟩
  by_contra hne
  rcases List.Pairwise.forall h hi hj hne with hnone | hnone
  · rw [hnone] at hi'
    cases hi'
  · rw [hnone] at hj'
    cases hj'

end Exclusive
end Cascade
