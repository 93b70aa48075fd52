/-! The four places of a shorthand follow each other clockwise, and a place without a value takes
that of the opposite one, or else the first. -/

namespace Cascade

structure Sides (α : Type) where
  first : α
  second : α
  third : α
  fourth : α
deriving DecidableEq, Repr

namespace Sides

def ofList? {α : Type} : List α → Option (Sides α)
  | [a] => some ⟨a, a, a, a⟩
  | [a, b] => some ⟨a, b, a, b⟩
  | [a, b, c] => some ⟨a, b, c, b⟩
  | [a, b, c, d] => some ⟨a, b, c, d⟩
  | _ => none

theorem isSome_ofList?_iff {α : Type} {values : List α} :
    (ofList? values).isSome = true ↔ 1 ≤ values.length ∧ values.length ≤ 4 := by
  match values with
  | [] => simp [ofList?]
  | [_] => simp [ofList?]
  | [_, _] => simp [ofList?]
  | [_, _, _] => simp [ofList?]
  | [_, _, _, _] => simp [ofList?]
  | _ :: _ :: _ :: _ :: _ :: _ => simp [ofList?]

/-- The completion of a list to four values, place by place. -/
theorem ofList?_eq_some_iff {α : Type} {values : List α} {s : Sides α} :
    ofList? values = some s ↔ values.length ≤ 4 ∧ values[0]? = some s.first ∧
      s.second = values[1]?.getD s.first ∧ s.third = values[2]?.getD s.first ∧
      s.fourth = values[3]?.getD s.second := by
  obtain ⟨w, x, y, z⟩ := s
  match values with
  | [] => simp [ofList?]
  | [a] => simp [ofList?]; grind
  | [a, b] => simp [ofList?]; grind
  | [a, b, c] => simp [ofList?]; grind
  | [a, b, c, d] => simp [ofList?]; grind
  | _ :: _ :: _ :: _ :: _ :: _ => simp [ofList?]

end Sides
end Cascade
