import Cascade.Text.Basic

/-! A declaration spells a token in small letters, joined or with a hyphen before each capital. -/

namespace Cascade

inductive Token where
  | primary
  | secondary
  | systemBackground
  | secondarySystemBackground
  | tertiarySystemBackground
  | systemGroupedBackground
  | secondarySystemGroupedBackground
  | tertiarySystemGroupedBackground
  | label
  | secondaryLabel
  | tertiaryLabel
  | quaternaryLabel
  | link
  | placeholderText
  | separator
  | opaqueSeparator
  | systemBlue
  | systemGreen
  | systemIndigo
  | systemOrange
  | systemPink
  | systemPurple
  | systemRed
  | systemTeal
  | systemYellow
  | systemGray
  | systemGray2
  | systemGray3
  | systemGray4
  | systemGray5
  | systemGray6
deriving DecidableEq, Repr

namespace Token

def all : List Token :=
  [.primary, .secondary, .systemBackground, .secondarySystemBackground,
   .tertiarySystemBackground, .systemGroupedBackground, .secondarySystemGroupedBackground,
   .tertiarySystemGroupedBackground, .label, .secondaryLabel, .tertiaryLabel, .quaternaryLabel,
   .link, .placeholderText, .separator, .opaqueSeparator, .systemBlue, .systemGreen,
   .systemIndigo, .systemOrange, .systemPink, .systemPurple, .systemRed, .systemTeal,
   .systemYellow, .systemGray, .systemGray2, .systemGray3, .systemGray4, .systemGray5,
   .systemGray6]

def name : Token → Text
  | .primary => "primary".toList
  | .secondary => "secondary".toList
  | .systemBackground => "systemBackground".toList
  | .secondarySystemBackground => "secondarySystemBackground".toList
  | .tertiarySystemBackground => "tertiarySystemBackground".toList
  | .systemGroupedBackground => "systemGroupedBackground".toList
  | .secondarySystemGroupedBackground => "secondarySystemGroupedBackground".toList
  | .tertiarySystemGroupedBackground => "tertiarySystemGroupedBackground".toList
  | .label => "label".toList
  | .secondaryLabel => "secondaryLabel".toList
  | .tertiaryLabel => "tertiaryLabel".toList
  | .quaternaryLabel => "quaternaryLabel".toList
  | .link => "link".toList
  | .placeholderText => "placeholderText".toList
  | .separator => "separator".toList
  | .opaqueSeparator => "opaqueSeparator".toList
  | .systemBlue => "systemBlue".toList
  | .systemGreen => "systemGreen".toList
  | .systemIndigo => "systemIndigo".toList
  | .systemOrange => "systemOrange".toList
  | .systemPink => "systemPink".toList
  | .systemPurple => "systemPurple".toList
  | .systemRed => "systemRed".toList
  | .systemTeal => "systemTeal".toList
  | .systemYellow => "systemYellow".toList
  | .systemGray => "systemGray".toList
  | .systemGray2 => "systemGray2".toList
  | .systemGray3 => "systemGray3".toList
  | .systemGray4 => "systemGray4".toList
  | .systemGray5 => "systemGray5".toList
  | .systemGray6 => "systemGray6".toList

theorem mem_all (token : Token) : token ∈ all := by
  cases token <;> decide

def ofName? (t : Text) : Option Token := all.find? (·.name = t)

theorem ofName?_name (token : Token) : ofName? token.name = some token := by
  have : ∀ token ∈ all, ofName? token.name = some token := by decide +kernel
  exact this token (mem_all token)

/-- No two tokens share a name, as a name leads back to its token. -/
theorem name_injective {a b : Token} (h : a.name = b.name) : a = b := by
  have := congrArg ofName? h
  simpa [ofName?_name] using this

/-! ## Spellings -/

def hyphenate (t : Text) : Text := t.flatMap fun c => if c.isUpper then ['-', c] else [c]

def joined (token : Token) : Text := token.name.map Char.toLower

def hyphenated (token : Token) : Text := (hyphenate token.name).map Char.toLower

def ofSpelling? (t : Text) : Option Token :=
  -- Both spellings are in small letters, so a capital is never part of one.
  all.find? fun token => token.hyphenated = t || token.joined = t

end Token
end Cascade
