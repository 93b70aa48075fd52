import Cascade.Proofs.Style.CanonicalText
import Cascade.Proofs.Text.AsciiCase

/-!
# The case of ASCII letters in a declaration block

A block with its ASCII letters lowered is cut and trimmed at the same places, so it has the same
declarations.
-/

namespace Cascade
open Text

/-- Segment by segment the declarations are the same. -/
theorem Segment.declaration?_ofText_map_toLower (t : Text) :
    (ofText (t.map Char.toLower)).declaration? = (ofText t).declaration? := by
  have hbreak : breakOn ':' (t.map Char.toLower) =
      (breakOn ':' t).map (Prod.map (List.map Char.toLower) (List.map Char.toLower)) :=
    breakOn_map (toLower_eq_iff (by decide)) t
  unfold ofText
  rw [hbreak]
  cases breakOn ':' t with
  | none => rw [Option.map_none, declaration?_refuse, declaration?_refuse]
  | some sides =>
    obtain ⟨property, value⟩ := sides
    rw [Option.map_some, Prod.map_apply]
    simp only [List.map_eq_nil_iff, trim_map isBlank_toLower, lower_map_toLower]
    -- A side is empty in both or in neither, and what is refused is no declaration.
    split
    · rw [declaration?_refuse, declaration?_refuse]
    · rfl

namespace Declaration

/-- Lowering moves no semicolon, so it makes no difference which is done first. -/
theorem listOfText_map_toLower (t : Text) : listOfText (t.map Char.toLower) = listOfText t := by
  have hsplit : (t.map Char.toLower).splitOn ';' = (t.splitOn ';').map (List.map Char.toLower) :=
    splitOn_map (toLower_eq_iff (by decide)) t
  have hread : (fun s => (Segment.ofText (s.map Char.toLower)).declaration?) = fun s =>
      (Segment.ofText s).declaration? := funext Segment.declaration?_ofText_map_toLower
  unfold listOfText Segment.listOfText
  rw [hsplit, List.filterMap_map, List.filterMap_map, List.filterMap_map]
  exact congrArg (List.filterMap · (t.splitOn ';')) hread

/-- **The case of ASCII letters does not matter.**  Blocks that are the same text once their ASCII
letters are lowered, and no other letters, have the same declarations and the same style. -/
theorem listOfText_eq_of_map_toLower_eq {t t' : Text}
    (h : t'.map Char.toLower = t.map Char.toLower) :
    listOfText t' = listOfText t ∧
      ∀ provider, Style.ofText provider t' = Style.ofText provider t := by
  have hlist : listOfText t' = listOfText t := by
    rw [← listOfText_map_toLower t', h, listOfText_map_toLower]
  refine ⟨hlist, fun provider => ?_⟩
  unfold Style.ofText
  rw [hlist]

/-- Whether a sigma ends its word depends on the letters around it, and not on their case. -/
theorem listOfText_sigma_between_letters :
    let t := "Background-Image: aΣ ΣB aΣ.C; x".toList
    let t' := "bACKGROUND-iMAGE: AΣ Σb AΣ.c; X".toList
    t'.map Char.toLower = t.map Char.toLower ∧
      listOfText t' = [⟨"background-image".toList, "aς σb aσ.c".toList⟩] ∧
      Style.ofText .deferred t' = Style.ofText .deferred t := by
  intro t t'
  have hcase : t'.map Char.toLower = t.map Char.toLower := by decide
  obtain ⟨hlist, hstyle⟩ := listOfText_eq_of_map_toLower_eq hcase
  refine ⟨hcase, ?_, hstyle .deferred⟩
  rw [hlist]
  decide +kernel

end Declaration
end Cascade
