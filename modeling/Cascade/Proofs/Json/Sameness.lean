import Cascade.Style.Json

/-!
# Sameness of JSON values

Values are the same if they hold the same data, whatever the sign of a zero, the notation of a whole
number and the order of members.
-/

namespace Cascade

/-! ## 1. Numbers -/

def Binary64.isUnits (count : Nat) : Binary64 → Bool
  | .finite negative units _ => units == count && (!negative || units == 0)
  | _ => false

/-- A double is compared by its units, in which both zeros have none. -/
theorem Binary64.same_finite {units : Nat} (grid : IsGrid units) (x : Binary64) :
    (finite false units grid).same x = x.isUnits units := by
  cases x with
  | finite negative units' _ =>
    show (units == units' && (false == negative || units == 0)) =
      (units' == units && (!negative || units' == 0))
    by_cases h : units' = units
    · subst h
      cases negative <;> simp
    · rw [beq_false_of_ne h, beq_false_of_ne (Ne.symm h)]
      rfl
  | infinite negative => rfl
  | nan => rfl

namespace Json

def unflagged : Json → Json
  | .flag b => .whole b.toNat
  | v => v

/-- A whole number is compared exactly, and not as the double next to it. -/
def sameNumber : Json → Json → Bool
  | .whole n, .whole m => n == m
  | .whole n, .number x => x.isUnits (n * unitsPerOne)
  | .number x, .whole n => x.isUnits (n * unitsPerOne)
  | .number x, .number y => x.same y
  | _, _ => false

/-! ## 2. Values -/

mutual

def same : Json → Json → Bool
  | .text t, .text t' => t == t'
  | .list items, .list items' => sameItems items items'
  | .object members, .object members' =>
    sameMembers members members' && members'.all fun m => (members.lookup m.1).isSome
  | v, w => sameNumber v.unflagged w.unflagged

def sameItems : List Json → List Json → Bool
  | [], [] => true
  | v :: rest, w :: rest' => same v w && sameItems rest rest'
  | _, _ => false

def sameMembers : List (Text × Json) → List (Text × Json) → Bool
  | [], _ => true
  | (k, v) :: rest, members =>
    (match members.lookup k with
      | some w => same v w
      | none => false) && sameMembers rest members

end

theorem sameMembers_iff {members members' : List (Text × Json)} :
    sameMembers members members' = true ↔
      ∀ m ∈ members, ∃ w, members'.lookup m.1 = some w ∧ m.2.same w = true := by
  induction members with
  | nil => simp [sameMembers]
  | cons m rest ih =>
    obtain ⟨k, v⟩ := m
    rw [sameMembers, Bool.and_eq_true, ih, List.forall_mem_cons]
    cases members'.lookup k with
    | none => simp
    | some w => simp

/-- Objects are the same if each has the keys of the other, with the same values. -/
theorem same_object_iff {members members' : List (Text × Json)} :
    (object members).same (object members') = true ↔
      (∀ m ∈ members, ∃ w, members'.lookup m.1 = some w ∧ m.2.same w = true) ∧
        ∀ m ∈ members', (members.lookup m.1).isSome = true := by
  rw [same, Bool.and_eq_true, sameMembers_iff, List.all_eq_true]

/-! ## 3. Objects with optional members -/

section
variable {α : Type} {key : α → Text} {value value' : α → Option Json} {items : List α}

def present (key : α → Text) (value : α → Option Json) (items : List α) : List (Text × Json) :=
  items.flatMap fun a => ((value a).map fun v => (key a, v)).toList

theorem mem_present {m : Text × Json} :
    m ∈ present key value items ↔ ∃ a ∈ items, ∃ v, value a = some v ∧ (key a, v) = m := by
  simp only [present, List.mem_flatMap, Option.mem_toList, Option.map_eq_some_iff]

theorem lookup_present_of_not_mem {k : Text} (h : k ∉ items.map key) :
    (present key value items).lookup k = none := by
  rw [List.lookup_eq_none_iff]
  intro m hm
  obtain ⟨a, ha, v, -, rfl⟩ := mem_present.1 hm
  have hne : k ≠ key a := by
    intro heq
    exact h (heq ▸ List.mem_map_of_mem ha)
  simpa using hne

/-- Under the key of an item there is the value of this item and no other one. -/
theorem lookup_present (hkeys : (items.map key).Nodup) {a : α} (ha : a ∈ items) :
    (present key value items).lookup (key a) = value a := by
  induction items with
  | nil => cases ha
  | cons b rest ih =>
    rw [List.map_cons, List.nodup_cons] at hkeys
    show ((((value b).map fun v => (key b, v)).toList) ++ present key value rest).lookup (key a) = _
    rw [List.lookup_append]
    rcases List.mem_cons.1 ha with rfl | ha
    · rw [lookup_present_of_not_mem hkeys.1]
      cases value a with
      | none => rfl
      | some v => simp
    · have hne : (key a == key b) = false := by
        apply beq_false_of_ne
        intro heq
        exact hkeys.1 (heq ▸ List.mem_map_of_mem ha)
      rw [ih hkeys.2 ha]
      cases value b with
      | none => rfl
      | some v => simp [List.lookup_cons, hne]

/-- Objects made from the same fields are compared field by field. -/
theorem same_object_present_iff (hkeys : (items.map key).Nodup) :
    (object (present key value items)).same (object (present key value' items)) = true ↔
      ∀ a ∈ items, Style.sameField same (value a) (value' a) = true := by
  rw [same_object_iff]
  constructor
  · intro h a ha
    obtain ⟨hfound, hkey⟩ := h
    cases hv : value a with
    | none =>
      cases hw : value' a with
      | none => rfl
      | some w =>
        -- The second object has a member that the first one lacks.
        have hsome := hkey (key a, w) (mem_present.2 ⟨a, ha, w, hw, rfl⟩)
        rw [lookup_present hkeys ha, hv] at hsome
        cases hsome
    | some v =>
      obtain ⟨w, hw, hsame⟩ := hfound (key a, v) (mem_present.2 ⟨a, ha, v, hv, rfl⟩)
      rw [lookup_present hkeys ha] at hw
      rw [hw]
      exact hsame
  · intro h
    constructor
    · intro m hm
      obtain ⟨a, ha, v, hv, rfl⟩ := mem_present.1 hm
      have hsame := h a ha
      rw [lookup_present hkeys ha]
      rw [hv] at hsame
      cases hw : value' a with
      | none =>
        rw [hw] at hsame
        cases hsame
      | some w =>
        rw [hw] at hsame
        exact ⟨w, rfl, hsame⟩
    · intro m hm
      obtain ⟨a, ha, w, hw, rfl⟩ := mem_present.1 hm
      have hsame := h a ha
      rw [lookup_present hkeys ha]
      cases hv : value a with
      | none =>
        rw [hv, hw] at hsame
        cases hsame
      | some v => rfl

end
end Json
end Cascade
