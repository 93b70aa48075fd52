import Cascade.Proofs.Sheet.Writing
import Cascade.Proofs.Style.TrimmedBlock

/-!
# A declaration block, inline and in a rule

The body of a rule is trimmed when it is read, and an inline declaration block is not.
-/

namespace Cascade.Sheet
open Text

def classText (body : Text) : Text := ".a \x7b".toList ++ (body ++ ['}'])

/-- What is put around the body does not complete an opening. -/
theorem opensIn_classText {body : Text} (h : Comment.opensIn body = false) :
    Comment.opensIn (classText body) = false := by
  have hend : Comment.opensIn (body ++ ['}']) = false :=
    occursIn_pair_append h (by decide) (by simp)
  refine occursIn_pair_append (by decide) hend ?_
  rintro ⟨hlast, -⟩
  exact absurd hlast (by decide)

section
variable {body : Text}

/-- The stylesheet has one rule, with the body trimmed. -/
theorem definitionsOfText_classText (hblank : isBlankText body = false)
    (hbraces : '{' ∉ body ∧ '}' ∉ body) (hopen : Comment.opensIn body = false) :
    definitionsOfText (classText body) = [(".a".toList, trim body)] := by
  let rule : Rule := ⟨[".a ".toList], body, by decide, by decide, hbraces, hblank⟩
  have htext : classText body = [Item.rule rule].flatMap Item.text := by
    rw [List.flatMap_singleton]
    rfl
  have hstrip : Comment.strip (classText body) = classText body :=
    Comment.strip_of_not_opensIn (opensIn_classText hopen)
  unfold definitionsOfText
  rw [← Block.listOfBare_strip, hstrip, htext, Item.definitions_listOfBare_flatMap]
  rfl

/-- So the class has the style of the trimmed body. -/
theorem style_classText (hblank : isBlankText body = false)
    (hbraces : '{' ∉ body ∧ '}' ∉ body) (hopen : Comment.opensIn body = false)
    (provider : Provider) :
    (ofText (classText body)).style provider ["a".toList] = Style.ofText provider (trim body) := by
  have hresolve : (ofText (classText body)).resolve ["a".toList] = trim body := by
    unfold ofText parse
    rw [definitionsOfText_classText hblank hbraces hopen]
    exact List.intercalate_singleton
  unfold style
  rw [hresolve]

/-- **A class has the style of its block, but for a declaration that only blanks end.**  The class
has the style of the trimmed block.  That is the style of the block itself, unless the block ends
in a declaration with nothing but blanks for a value: then it is the style without that
declaration, which the block applies to it. -/
theorem style_class_eq_inline (hblank : isBlankText body = false)
    (hbraces : '{' ∉ body ∧ '}' ∉ body) (hopen : Comment.opensIn body = false)
    (provider : Provider) :
    (ofText (classText body)).style provider ["a".toList] = Style.ofText provider (trim body) ∧
      (Declaration.trailing? body = none →
        (ofText (classText body)).style provider ["a".toList] = Style.ofText provider body) ∧
      ∀ d, Declaration.trailing? body = some d →
        Style.ofText provider body =
          d.apply provider ((ofText (classText body)).style provider ["a".toList]) := by
  have hstyle := style_classText hblank hbraces hopen provider
  have hinline := Style.ofText_eq_apply_trailing? provider body
  refine ⟨hstyle, ?_, ?_⟩
  · intro hnone
    rw [hnone] at hinline
    exact hstyle.trans hinline.symm
  · intro d hsome
    rw [hsome, ← hstyle] at hinline
    exact hinline

end

/-- Blanks at the end of a value make no difference, and blanks in place of one do: the last
declaration of the second block is the block's alone. -/
theorem style_class_eq_inline_blank_value :
    let plain := " color: red; padding: 1px ".toList
    let ended := "color: red; background-image: ".toList
    let d : Declaration := ⟨"background-image".toList, []⟩
    Declaration.trailing? plain = none ∧
      (ofText (classText plain)).style .deferred ["a".toList] = Style.ofText .deferred plain ∧
      Declaration.trailing? ended = some d ∧
      Style.ofText .deferred ended =
        d.apply .deferred ((ofText (classText ended)).style .deferred ["a".toList]) := by
  intro plain ended d
  have hplain : Declaration.trailing? plain = none := by decide +kernel
  have hended : Declaration.trailing? ended = some d := by decide +kernel
  obtain ⟨-, hnone, -⟩ := style_class_eq_inline (by decide : isBlankText plain = false)
    (by decide) (by decide) .deferred
  obtain ⟨-, -, hsome⟩ := style_class_eq_inline (by decide : isBlankText ended = false)
    (by decide) (by decide) .deferred
  exact ⟨hplain, hnone hplain, hended, hsome d hended⟩

/-- Inline, the last declaration of the color cannot be read and leaves the color absent.  In the
class it is no declaration, and the color stays red. -/
theorem foregroundColor_class_ne_inline :
    let body := "color:red;color: ".toList
    let style := (ofText (classText body)).style .deferred ["a".toList]
    isBlankText body = false ∧ '{' ∉ body ∧ '}' ∉ body ∧ Comment.opensIn body = false ∧
      style.foregroundColor ≠ none ∧ (Style.ofText .deferred body).foregroundColor = none ∧
      style ≠ Style.ofText .deferred body := by
  decide +kernel

end Cascade.Sheet
