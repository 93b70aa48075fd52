import Cascade.Property

/-!
# Shorthands

Of a shorthand only the pieces between single spaces that are lengths count.  One to four of them
are completed clockwise, in the same way for insets and for corners.
-/

namespace Cascade

/-! ## 1. Lists of lengths -/

namespace Length
open Text

variable {t filler : Text}

theorem listOfText_eq_toList_of_not_mem (h : ' ' ∉ t) : listOfText t = (ofText? t).toList := by
  unfold listOfText
  rw [List.splitOn_eq_singleton h, List.filterMap_cons, List.filterMap_nil]
  cases ofText? t <;> rfl

/-- Only the pieces that are lengths count. -/
theorem listOfText_intercalate {pieces : List Text} (h : ∀ piece ∈ pieces, ' ' ∉ piece) :
    listOfText (List.intercalate [' '] pieces) = pieces.filterMap ofText? := by
  have hnil : listOfText [] = [] := by decide +kernel
  rw [read_intercalate hnil listOfText_append]
  induction pieces with
  | nil => rfl
  | cons piece pieces ih =>
    have hpiece := listOfText_eq_toList_of_not_mem (h piece List.mem_cons_self)
    rw [List.flatMap_cons, hpiece, ih fun p hp => h p (List.mem_cons_of_mem piece hp),
      List.filterMap_cons]
    cases ofText? piece <;> rfl

def IsFiller (t : Text) : Prop := ∀ piece ∈ t.splitOn ' ', ofText? piece = none

theorem IsFiller.listOfText_eq_nil (h : IsFiller filler) : listOfText filler = [] :=
  List.filterMap_eq_nil_iff.2 h

/-- Spaces hold no length, as the pieces between them are empty. -/
theorem isFiller_spaces (n : Nat) : IsFiller (List.replicate n ' ') := by
  have hempty : ofText? [] = none := by decide +kernel
  induction n with
  | zero => simpa [IsFiller, List.splitOn_nil] using hempty
  | succ n ih =>
    unfold IsFiller
    rw [List.replicate_succ, splitOn_cons_self]
    intro piece hpiece
    rcases List.mem_cons.1 hpiece with rfl | hpiece
    · exact hempty
    · exact ih piece hpiece

/-- What holds no length changes nothing between two spaces, nor with one space at either end. -/
theorem IsFiller.listOfText_insert (h : IsFiller filler) (a b : Text) :
    listOfText (a ++ ' ' :: (filler ++ ' ' :: b)) = listOfText (a ++ ' ' :: b) ∧
      listOfText (filler ++ ' ' :: b) = listOfText b ∧
      listOfText (a ++ ' ' :: filler) = listOfText a := by
  simp only [listOfText_append, h.listOfText_eq_nil, List.nil_append, List.append_nil, and_self]

/-- Spaces change nothing beside a space, nor at either end. -/
theorem listOfText_insert_spaces (n : Nat) (a b : Text) :
    listOfText (a ++ ' ' :: (List.replicate n ' ' ++ b)) = listOfText (a ++ ' ' :: b) ∧
      listOfText (List.replicate n ' ' ++ b) = listOfText b ∧
      listOfText (a ++ List.replicate n ' ') = listOfText a := by
  cases n with
  | zero => simp
  -- Behind the last of the spaces the others are a filler.
  | succ n =>
    obtain ⟨hmiddle, hfront, -⟩ := (isFiller_spaces n).listOfText_insert a b
    refine ⟨?_, ?_, ?_⟩
    · rw [List.replicate_succ', List.append_assoc]
      exact hmiddle
    · rw [List.replicate_succ', List.append_assoc]
      exact hfront
    · exact ((isFiller_spaces n).listOfText_insert a b).2.2

end Length

/-! ## 2. Insets, corners and points -/

section
variable {t : Text}

/-- A missing edge takes the value of the opposite one, and in the end that of the top. -/
theorem Insets.ofText?_eq_some_iff {insets : Insets} :
    Insets.ofText? t = some insets ↔
      (Length.listOfText t).length ≤ 4 ∧ (Length.listOfText t)[0]? = some insets.top ∧
        insets.trailing = (Length.listOfText t)[1]?.getD insets.top ∧
        insets.bottom = (Length.listOfText t)[2]?.getD insets.top ∧
        insets.leading = (Length.listOfText t)[3]?.getD insets.trailing := by
  have hsides : Insets.ofText? t = some insets ↔ Sides.ofList? (Length.listOfText t) =
      some ⟨insets.top, insets.trailing, insets.bottom, insets.leading⟩ := by
    unfold Insets.ofText?
    rw [Option.map_eq_some_iff]
    constructor
    · rintro ⟨s, hs, rfl⟩
      exact hs
    · intro hs
      exact ⟨_, hs, rfl⟩
  rw [hsides, Sides.ofList?_eq_some_iff]

/-- Insets are made from one to four lengths. -/
theorem Insets.isSome_ofText?_iff :
    (Insets.ofText? t).isSome = true ↔
      1 ≤ (Length.listOfText t).length ∧ (Length.listOfText t).length ≤ 4 := by
  unfold Insets.ofText?
  rw [Option.isSome_map, Sides.isSome_ofList?_iff]

/-- Clockwise, the corners from the top left one are the edges from the top. -/
theorem Corners.ofText?_eq_map_insets :
    Corners.ofText? t = (Insets.ofText? t).map fun insets =>
      ⟨insets.top, insets.trailing, insets.bottom, insets.leading⟩ := by
  unfold Corners.ofText? Insets.ofText?
  rw [Option.map_map]
  rfl

/-- A point is made from two lengths and no other number of them. -/
theorem Point.ofText?_eq_some_iff {p : Point} :
    Point.ofText? t = some p ↔ Length.listOfText t = [p.x, p.y] := by
  unfold Point.ofText?
  match Length.listOfText t with
  -- Only the list of two lengths is one that makes a point.
  | [] => simp [Point.ofList?]
  | [_] => simp [Point.ofList?]
  | [x, y] => cases p; simp [Point.ofList?]
  | _ :: _ :: _ :: _ => simp [Point.ofList?]

end

/-- **What a shorthand stands for.**  Of a text only the pieces that are lengths count; insets and
corners are completed from one to four of them and are the same four numbers; an offset and a
position are two of them. -/
theorem shorthand_completion :
    (∀ t : Text, ∃ pieces : List Text, (∀ piece ∈ pieces, ' ' ∉ piece) ∧
      t = List.intercalate [' '] pieces ∧
      Length.listOfText t = pieces.filterMap Length.ofText?) ∧
    (∀ pieces : List Text, (∀ piece ∈ pieces, ' ' ∉ piece) →
      Length.listOfText (List.intercalate [' '] pieces) = pieces.filterMap Length.ofText?) ∧
    (∀ a b : Text, Length.listOfText (a ++ ' ' :: b) =
      Length.listOfText a ++ Length.listOfText b) ∧
    (∀ (n : Nat) (a b : Text),
      Length.listOfText (a ++ ' ' :: (List.replicate n ' ' ++ b)) =
          Length.listOfText (a ++ ' ' :: b) ∧
        Length.listOfText (List.replicate n ' ' ++ b) = Length.listOfText b ∧
        Length.listOfText (a ++ List.replicate n ' ') = Length.listOfText a) ∧
    (∀ filler a b : Text, Length.IsFiller filler →
      Length.listOfText (a ++ ' ' :: (filler ++ ' ' :: b)) = Length.listOfText (a ++ ' ' :: b) ∧
        Length.listOfText (filler ++ ' ' :: b) = Length.listOfText b ∧
        Length.listOfText (a ++ ' ' :: filler) = Length.listOfText a) ∧
    (∀ t : Text, (Insets.ofText? t).isSome = true ↔
      1 ≤ (Length.listOfText t).length ∧ (Length.listOfText t).length ≤ 4) ∧
    (∀ (t : Text) (insets : Insets), Insets.ofText? t = some insets ↔
      (Length.listOfText t).length ≤ 4 ∧ (Length.listOfText t)[0]? = some insets.top ∧
        insets.trailing = (Length.listOfText t)[1]?.getD insets.top ∧
        insets.bottom = (Length.listOfText t)[2]?.getD insets.top ∧
        insets.leading = (Length.listOfText t)[3]?.getD insets.trailing) ∧
    (∀ t : Text, Corners.ofText? t = (Insets.ofText? t).map fun insets =>
      ⟨insets.top, insets.trailing, insets.bottom, insets.leading⟩) ∧
    ∀ (provider : Provider) (s : Style) (t : Text) (p : Point),
      (Property.offset.assign provider t s).offset =
          (Property.position.assign provider t s).position ∧
        ((Property.offset.assign provider t s).offset = some p ↔
          Length.listOfText t = [p.x, p.y]) := by
  refine ⟨?_, fun _ => Length.listOfText_intercalate, Length.listOfText_append,
    Length.listOfText_insert_spaces, fun _ a b h => h.listOfText_insert a b,
    fun _ => Insets.isSome_ofText?_iff, fun _ _ => Insets.ofText?_eq_some_iff,
    fun _ => Corners.ofText?_eq_map_insets, ?_⟩
  · intro t
    exact ⟨t.splitOn ' ', fun _ => Text.not_mem_of_mem_splitOn,
      (List.intercalate_splitOn ' ').symm, rfl⟩
  · intro provider s t p
    exact ⟨rfl, Point.ofText?_eq_some_iff⟩

theorem listOfText_around_filler :
    Length.listOfText (List.intercalate [' '] ["1px".toList, "auto".toList, [], "2pt".toList]) =
        ["1px".toList, "auto".toList, [], "2pt".toList].filterMap Length.ofText? ∧
      Length.IsFiller "auto  x".toList ∧
      Length.listOfText ("1px".toList ++ ' ' :: ("auto  x".toList ++ ' ' :: "2pt".toList)) =
        Length.listOfText ("1px".toList ++ ' ' :: "2pt".toList) := by
  have hfiller : Length.IsFiller "auto  x".toList := by
    unfold Length.IsFiller
    decide +kernel
  obtain ⟨-, hpieces, -, -, hinsert, -⟩ := shorthand_completion
  exact ⟨hpieces _ (by decide), hfiller, (hinsert _ "1px".toList "2pt".toList hfiller).1⟩

end Cascade
