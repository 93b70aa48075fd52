import Cascade.Proofs.Style.NamedDeclarations
import Cascade.Proofs.Text.LetterCase

/-!
# The canonical text of a declaration block

A declaration that has been read is trimmed and in small letters, and stays the same when it is
written and read again.
-/

namespace Cascade
open Text

/-! ## 1. Segments that are declarations -/

namespace Segment

theorem refuse_ne_declaration (t : Text) (d : Declaration) : refuse t ≠ .declaration d := by
  unfold refuse
  split <;> simp

theorem declaration?_refuse (t : Text) : (refuse t).declaration? = none := by
  unfold refuse
  split <;> rfl

/-- A segment is a declaration if it has something on both sides of its first colon. -/
theorem ofText_eq_declaration_iff {t : Text} {d : Declaration} :
    ofText t = .declaration d ↔
      ∃ property value, t = property ++ ':' :: value ∧ ':' ∉ property ∧ property ≠ [] ∧
        value ≠ [] ∧ d = ⟨lower (trim property), lower (trim value)⟩ := by
  unfold ofText
  constructor
  · intro h
    split at h
    · rename_i property value hbreak
      obtain ⟨ht, hproperty⟩ := breakOn_eq_some_iff.1 hbreak
      split at h
      · exact absurd h (refuse_ne_declaration t d)
      · rename_i hsides
        simp only [Bool.or_eq_true, decide_eq_true_eq, not_or] at hsides
        exact ⟨property, value, ht, hproperty, hsides.1, hsides.2, by cases h; rfl⟩
    · exact absurd h (refuse_ne_declaration t d)
  · intro h
    obtain ⟨property, value, ht, hcolon, hproperty, hvalue, rfl⟩ := h
    rw [breakOn_eq_some_iff.2 ⟨ht, hcolon⟩]
    simp [hproperty, hvalue]

theorem declaration?_eq_some_iff {s : Segment} {d : Declaration} :
    s.declaration? = some d ↔ s = .declaration d := by
  cases s <;> simp [declaration?]

end Segment

/-! ## 2. Declarations that have been read -/

namespace Declaration

/-- A declaration with sides as they are read: without separators, trimmed and in small letters. -/
structure Clean (d : Declaration) : Prop where
  colon_not_mem : ':' ∉ d.property
  semicolon_not_mem_property : ';' ∉ d.property
  semicolon_not_mem_value : ';' ∉ d.value
  lower_trim_property : lower (trim d.property) = d.property
  lower_trim_value : lower (trim d.value) = d.value

/-- A side that has been trimmed and lowered stays as it is. -/
theorem lower_trim_lower_trim (t : Text) : lower (trim (lower (trim t))) = lower (trim t) := by
  rw [trim_lower_trim, lower_lower]

theorem not_mem_lower_trim {c : Char} (hc : c.toNat ≤ 0x60) {t : Text} (h : c ∉ t) :
    c ∉ lower (trim t) :=
  fun hmem => h (mem_of_mem_trim (mem_of_mem_lower hc hmem))

/-- Whatever is read is clean. -/
theorem clean_of_mem_listOfText {t : Text} {d : Declaration} (h : d ∈ listOfText t) : d.Clean := by
  obtain ⟨s, hs, hd⟩ := List.mem_filterMap.1 h
  obtain ⟨piece, hpiece, rfl⟩ := List.mem_map.1 hs
  obtain ⟨property, value, rfl, hcolon, -, -, rfl⟩ :=
    Segment.ofText_eq_declaration_iff.1 (Segment.declaration?_eq_some_iff.1 hd)
  have hsemicolon : ';' ∉ property ++ ':' :: value := not_mem_of_mem_splitOn hpiece
  have hproperty : ';' ∉ property := fun hmem => hsemicolon (List.mem_append_left _ hmem)
  have hvalue : ';' ∉ value := fun hmem =>
    hsemicolon (List.mem_append_right _ (List.mem_cons_of_mem _ hmem))
  exact {
    colon_not_mem := not_mem_lower_trim (by decide) hcolon
    semicolon_not_mem_property := not_mem_lower_trim (by decide) hproperty
    semicolon_not_mem_value := not_mem_lower_trim (by decide) hvalue
    lower_trim_property := lower_trim_lower_trim property
    lower_trim_value := lower_trim_lower_trim value }

namespace Clean
variable {d : Declaration} (h : d.Clean)
include h

theorem semicolon_not_mem_text : ';' ∉ d.text := by
  unfold text
  simp [h.semicolon_not_mem_property, h.semicolon_not_mem_value]

/-- With a blank in front of it, a written declaration is read back, be it named or not. -/
theorem ofText_cons_text : Segment.ofText (' ' :: d.text) = .declaration d := by
  have hcolon : ':' ∉ ' ' :: d.property := by
    simp [h.colon_not_mem]
  have hproperty : trim (' ' :: d.property) = trim d.property := trim_cons_of_isBlank (by decide) _
  have hvalue : trim (' ' :: d.value) = trim d.value := trim_cons_of_isBlank (by decide) _
  rw [Segment.ofText_eq_declaration_iff]
  refine ⟨' ' :: d.property, ' ' :: d.value, by simp [text], hcolon, by simp, by simp, ?_⟩
  rw [hproperty, hvalue, h.lower_trim_property, h.lower_trim_value]

theorem listOfText_cons_text : listOfText (' ' :: d.text) = [d] := by
  have hsemicolon : ';' ∉ ' ' :: d.text := by
    simp [h.semicolon_not_mem_text]
  rw [listOfText_of_not_mem hsemicolon, h.ofText_cons_text]
  rfl

/-- Without a blank, a written declaration is read back if its property has a name. -/
theorem listOfText_text : listOfText d.text = if d.property = [] then [] else [d] := by
  rw [listOfText_of_not_mem h.semicolon_not_mem_text]
  split
  · rename_i hname
    have htext : d.text = ':' :: ' ' :: d.value := by
      unfold text
      rw [hname]
      rfl
    rw [htext]
    -- Nothing at all stands before the colon.
    have hrefuse : Segment.ofText (':' :: ' ' :: d.value) =
        Segment.refuse (':' :: ' ' :: d.value) := rfl
    rw [hrefuse]
    unfold Segment.refuse
    split <;> rfl
  · rename_i hname
    have hread : Segment.ofText d.text = .declaration d := by
      rw [Segment.ofText_eq_declaration_iff]
      refine ⟨d.property, ' ' :: d.value, by simp [text], h.colon_not_mem, hname, by simp, ?_⟩
      rw [trim_cons_of_isBlank (by decide), h.lower_trim_property, h.lower_trim_value]
    rw [hread]
    rfl

end Clean

/-! ## 3. The canonical text -/

def canonicalText (ds : List Declaration) : Text := List.intercalate "; ".toList (ds.map text)

theorem canonicalText_cons_cons (d next : Declaration) (ds : List Declaration) :
    canonicalText (d :: next :: ds) = d.text ++ ';' :: ' ' :: canonicalText (next :: ds) := by
  unfold canonicalText
  rw [List.map_cons, List.map_cons, List.intercalate_cons_cons, ← List.map_cons, List.append_assoc]
  rfl

/-- With a blank in front, every list of clean declarations is read back. -/
theorem listOfText_cons_canonicalText {ds : List Declaration} (h : ∀ d ∈ ds, d.Clean) :
    listOfText (' ' :: canonicalText ds) = ds := by
  induction ds with
  | nil => rfl
  | cons d ds ih =>
    have hd : d.Clean := h d List.mem_cons_self
    have hrest := ih fun e he => h e (List.mem_cons_of_mem d he)
    cases ds with
    | nil =>
      show listOfText (' ' :: List.intercalate "; ".toList [d.text]) = [d]
      rw [List.intercalate_singleton, hd.listOfText_cons_text]
    | cons next ds =>
      rw [canonicalText_cons_cons, ← List.cons_append, listOfText_append_cons, hrest,
        hd.listOfText_cons_text]
      rfl

/-- Without it only the first declaration can be lost, for having no name. -/
theorem listOfText_canonicalText_cons {d : Declaration} {ds : List Declaration}
    (h : ∀ e ∈ d :: ds, e.Clean) :
    listOfText (canonicalText (d :: ds)) = if d.property = [] then ds else d :: ds := by
  have hd : d.Clean := h d List.mem_cons_self
  have hrest := listOfText_cons_canonicalText fun e he => h e (List.mem_cons_of_mem d he)
  have hread : listOfText (canonicalText (d :: ds)) = listOfText d.text ++ ds := by
    cases ds with
    | nil =>
      show listOfText (List.intercalate "; ".toList [d.text]) = listOfText d.text ++ []
      rw [List.intercalate_singleton, List.append_nil]
    | cons next ds => rw [canonicalText_cons_cons, listOfText_append_cons, hrest]
  rw [hread, hd.listOfText_text]
  split <;> rfl

/-- **The canonical text stands for its block.**  Read back, the declarations of a block that are
written one after the other are the same declarations, but for a first one whose property has no
name; and the style is that of the block. -/
theorem listOfText_canonicalText_listOfText (t : Text) :
    let ds := listOfText t
    listOfText (canonicalText ds) =
        (if ds.head?.any (fun d => d.property = []) then ds.tail else ds) ∧
      ∀ provider, Style.ofText provider (canonicalText ds) = Style.ofText provider t := by
  intro ds
  have hclean : ∀ d ∈ ds, d.Clean := fun d hd => clean_of_mem_listOfText hd
  have hread : listOfText (canonicalText ds) =
      if ds.head?.any (fun d => d.property = []) then ds.tail else ds := by
    cases hds : ds with
    | nil => rfl
    | cons d rest =>
      -- Only the first declaration has no blank in front of it.
      rw [hds] at hclean
      rw [listOfText_canonicalText_cons hclean]
      simp
  refine ⟨hread, fun provider => ?_⟩
  show Style.ofDeclarations provider (listOfText (canonicalText ds)) =
    Style.ofDeclarations provider ds
  rw [hread]
  cases hds : ds with
  | nil => rfl
  | cons d rest =>
    by_cases hname : d.property = []
    · -- The declaration that is lost sets nothing.
      have happly (s : Style) : d.apply provider s = s :=
        apply_of_not_isNamed (by simp [isNamed, hname]) provider s
      simp [hname, Style.ofDeclarations, happly]
    · simp [hname]

example : canonicalText (listOfText " :Red;; COLOR:blue ; x".toList) =
    ": red; color: blue".toList := by decide +kernel

end Declaration
end Cascade
