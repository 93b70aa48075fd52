import Cascade.Json.Basic
import Cascade.Number.Shortest
import Cascade.Text.Hex

/-! JSON is printed in ASCII, with an indentation of two spaces for each level. -/

namespace Cascade.Json
open Text

/-! ## 1. Strings -/

def escapeUnit (n : Nat) : Text := '\\' :: 'u' :: hexDigits 4 n

def escapeCode (n : Nat) : Text :=
  if n < 0x10000 then escapeUnit n
  -- Beyond the first plane a character is a pair of surrogates.
  else
    escapeUnit (0xD800 + (n - 0x10000) / 0x400) ++ escapeUnit (0xDC00 + (n - 0x10000) % 0x400)

def escape (c : Char) : Text :=
  if c = '"' then ['\\', '"']
  else if c = '\\' then ['\\', '\\']
  else if c = '\n' then ['\\', 'n']
  else if c = '\r' then ['\\', 'r']
  else if c = '\t' then ['\\', 't']
  else if c = '\x08' then ['\\', 'b']
  else if c = '\x0c' then ['\\', 'f']
  else if 0x20 ≤ c.toNat && c.toNat ≤ 0x7E then [c]
  else escapeCode c.toNat

def string (t : Text) : Text := '"' :: t.flatMap escape ++ ['"']

/-! ## 2. Values -/

/-- Numbers stand without an exponent from 10^-4 up to 10^16, and an exponent has a sign and at
least two digits. -/
def numberLayout : NumberLayout := ⟨-4, 16, 2, "Infinity".toList, "NaN".toList⟩

def newLine (level : Nat) : Text := '\n' :: List.replicate (2 * level) ' '

mutual

def render (level : Nat) : Json → Text
  | flag b => if b then "true".toList else "false".toList
  | whole n => Nat.toDigits 10 n
  | number x => numberLayout.text x
  | text t => string t
  | list items =>
    if items.isEmpty then "[]".toList
    else '[' :: renderItems (level + 1) items ++ newLine level ++ [']']
  | object members =>
    if members.isEmpty then "\x7b\x7d".toList
    else '\x7b' :: renderMembers (level + 1) members ++ newLine level ++ ['\x7d']

def renderItems (level : Nat) : List Json → Text
  | [] => []
  | [v] => newLine level ++ render level v
  | v :: rest => newLine level ++ render level v ++ ',' :: renderItems level rest

def renderMembers (level : Nat) : List (Text × Json) → Text
  | [] => []
  | [(k, v)] => newLine level ++ string k ++ ": ".toList ++ render level v
  | (k, v) :: rest =>
    newLine level ++ string k ++ ": ".toList ++ render level v ++ ',' :: renderMembers level rest

end

def print (v : Json) : Text := v.render 0

end Cascade.Json
