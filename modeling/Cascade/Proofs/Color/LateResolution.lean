import Cascade.Sheet.Reading

/-!
# Resolving semantic colors late

The deferred provider leaves semantic colors in a style, for a renderer to resolve.  Doing so gives
the style that reading with the renderer's provider gives at once.
-/

namespace Cascade

/-! ## 1. One color -/

namespace Color

def resolveWith (provider : Provider) : Color → Option Color
  | .rgba c => some (.rgba c)
  | .semantic token => provider.resolve token.name

/-- One color, read late or at once. -/
theorem bind_resolveWith_ofText? (provider : Provider) (t : Text) :
    (ofText? .deferred t).bind (resolveWith provider) = ofText? provider t := by
  unfold ofText?
  cases Rgba.ofName? t with
  | some c => rfl
  | none =>
    cases Token.ofSpelling? t with
    | some token =>
      -- The deferred provider knows every token, so the color is still there to be resolved.
      show (Provider.deferred.resolve token.name).bind (resolveWith provider) =
        provider.resolve token.name
      rw [Provider.resolve_deferred_name]
      rfl
    | none =>
      -- A literal asks no provider.
      show ((literal? t).map rgba).bind (resolveWith provider) = (literal? t).map rgba
      cases literal? t with
      | some c => rfl
      | none => rfl

end Color

/-! ## 2. Styles -/

namespace Style

def resolveWith (provider : Provider) (s : Style) : Style :=
  { s with
    foregroundColor := s.foregroundColor.bind (Color.resolveWith provider)
    backgroundColor := s.backgroundColor.bind (Color.resolveWith provider)
    borderColor := s.borderColor.bind (Color.resolveWith provider)
    decorationColor := s.decorationColor.bind (Color.resolveWith provider) }

/-- A token without a color clears its field both ways, so no property tells them apart. -/
theorem resolveWith_assign (provider : Provider) (p : Property) (value : Text) (s : Style) :
    (p.assign .deferred value s).resolveWith provider =
      p.assign provider value (s.resolveWith provider) := by
  cases p <;> simp only [Property.assign, resolveWith, Color.bind_resolveWith_ofText?]

theorem resolveWith_apply (provider : Provider) (s : Style) (d : Declaration) :
    (d.apply .deferred s).resolveWith provider = d.apply provider (s.resolveWith provider) := by
  unfold Declaration.apply
  cases d.property? with
  | some p => exact resolveWith_assign provider p d.value s
  | none => rfl

theorem resolveWith_ofText (provider : Provider) (t : Text) :
    (ofText .deferred t).resolveWith provider = ofText provider t := by
  unfold ofText ofDeclarations
  rw [← List.foldl_hom (resolveWith provider) fun s d => (resolveWith_apply provider s d).symm]
  rfl

/-- **Late resolution is early resolution.**  For every provider, the style of a declaration block
and the style of any classes of a stylesheet are those of the deferred provider with their colors
resolved afterwards. -/
theorem ofText_eq_resolveWith_deferred (provider : Provider) :
    (∀ t : Text, ofText provider t = (ofText .deferred t).resolveWith provider) ∧
      ∀ (s : Sheet) (names : List Text),
        s.style provider names = (s.style .deferred names).resolveWith provider := by
  constructor
  · intro t
    exact (resolveWith_ofText provider t).symm
  · intro s names
    exact (resolveWith_ofText provider (s.resolve names)).symm

end Style
end Cascade
