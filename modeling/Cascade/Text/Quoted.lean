import Cascade.Text.Hex
import Cascade.Text.Printable

/-! Messages show a text between single quotes, or between double quotes if it holds a single quote
and no double one. -/

namespace Cascade.Text

def quoteFor (t : Text) : Char :=
  -- Double quotes spare an escape, unless both kinds occur.
  if t.contains '\'' && !t.contains '"' then '"' else '\''

def escapeCode (n : Nat) : Text :=
  if n < 0x100 then '\\' :: 'x' :: hexDigits 2 n
  else if n < 0x10000 then '\\' :: 'u' :: hexDigits 4 n
  else '\\' :: 'U' :: hexDigits 8 n

def escapeBetween (quote : Char) (c : Char) : Text :=
  if c = quote || c = '\\' then ['\\', c]
  else if c = '\t' then ['\\', 't']
  else if c = '\n' then ['\\', 'n']
  else if c = '\r' then ['\\', 'r']
  else if isPrintable c then [c]
  else escapeCode c.toNat

def quoted (t : Text) : Text :=
  let quote := quoteFor t
  quote :: t.flatMap (escapeBetween quote) ++ [quote]

example : quoted "it's".toList = "\"it's\"".toList := by decide +kernel

example : quoted "a\\\n\u200b".toList = "'a\\\\\\n\\u200b'".toList := by decide +kernel

end Cascade.Text
