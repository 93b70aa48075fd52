import Cascade.Json.Printer

/-!
# JSON texts

A reader of the standard grammar, written apart from the printer so that the two can be compared.
-/

namespace Cascade.Json
open Text

inductive Document where
  | null
  | flag (b : Bool)
  | number (written : Text)
  | text (t : Text)
  | list (items : List Document)
  | object (members : List (Text × Document))

/-! ## 1. Tokens -/

def isSpace (c : Char) : Bool := c = ' ' || c = '\t' || c = '\n' || c = '\r'

def skipSpaces (t : Text) : Text := t.dropWhile isSpace

/-- What follows a token, before which spaces may stand. -/
def after? (token : Char) (t : Text) : Option Text :=
  match skipSpaces t with
  | [] => none
  | c :: rest => if c = token then some rest else none

def words : List (Text × Document) :=
  [("true".toList, .flag true), ("false".toList, .flag false), ("null".toList, .null)]

def readWord (t : Text) : Option (Document × Text) :=
  words.findSome? fun (word, v) => (word.isPrefixOf? t).map fun rest => (v, rest)

/-! ## 2. Numbers -/

def isDigits (t : Text) : Bool := !t.isEmpty && t.all Char.isDigit

def dropSign (signs : List Char) : Text → Text
  | [] => []
  | c :: rest => if signs.contains c then rest else c :: rest

def isExponent : Text → Bool
  | [] => true
  | mark :: rest => (mark = 'e' || mark = 'E') && isDigits (dropSign ['+', '-'] rest)

def isFraction : Text → Bool
  | '.' :: rest =>
    isDigits (rest.takeWhile Char.isDigit) && isExponent (rest.dropWhile Char.isDigit)
  | t => isExponent t

def isWhole : Text → Bool
  | [] => false
  | c :: rest => c ≠ '0' || rest.isEmpty

def isMagnitude (t : Text) : Bool :=
  isWhole (t.takeWhile Char.isDigit) && isFraction (t.dropWhile Char.isDigit)

def isNumber (t : Text) : Bool := isMagnitude (dropSign ['-'] t)

def isNumberChar (c : Char) : Bool :=
  c.isDigit || c = '-' || c = '+' || c = '.' || c = 'e' || c = 'E'

def readNumber (t : Text) : Option (Document × Text) :=
  -- No character of a number can stand right behind one.
  let written := t.takeWhile isNumberChar
  if isNumber written then some (.number written, t.dropWhile isNumberChar) else none

/-! ## 3. Strings -/

def escapes : List (Char × Nat) :=
  [('"', 0x22), ('\\', 0x5C), ('/', 0x2F), ('b', 0x08), ('f', 0x0C), ('n', 0x0A), ('r', 0x0D),
   ('t', 0x09)]

def unit? (a b c d : Char) : Option Nat :=
  match hexValue? a, hexValue? b, hexValue? c, hexValue? d with
  | some i, some j, some k, some l => some (0x1000 * i + 0x100 * j + 0x10 * k + l)
  | _, _, _, _ => none

def withCodes (codes : List Nat) (r : List Nat × Text) : List Nat × Text := (codes ++ r.1, r.2)

/-- The codes up to the closing quote, one for each character or escaped code unit. -/
def readCodes : Text → Option (List Nat × Text)
  | [] => none
  | '"' :: rest => some ([], rest)
  | '\\' :: 'u' :: a :: b :: c :: d :: rest =>
    (unit? a b c d).bind fun n => (readCodes rest).map (withCodes [n])
  | '\\' :: c :: rest => (escapes.lookup c).bind fun n => (readCodes rest).map (withCodes [n])
  | c :: rest => if c.toNat < 0x20 then none else (readCodes rest).map (withCodes [c.toNat])

def isHigh (n : Nat) : Bool := 0xD800 ≤ n && n < 0xDC00

def isLow (n : Nat) : Bool := 0xDC00 ≤ n && n < 0xE000

def ofCodes? : List Nat → Option Text
  | [] => some []
  | n :: rest =>
    if n.isValidChar then (ofCodes? rest).map (Char.ofNat n :: ·)
    else
      -- A surrogate stands for a character only together with the other one of its pair.
      match rest with
      | [] => none
      | low :: rest =>
        if isHigh n && isLow low then
          (ofCodes? rest).map (Char.ofNat (0x10000 + 0x400 * (n - 0xD800) + (low - 0xDC00)) :: ·)
        else none

def readText (t : Text) : Option (Text × Text) :=
  (readCodes t).bind fun (codes, rest) => (ofCodes? codes).map fun s => (s, rest)

def readKey (t : Text) : Option (Text × Text) :=
  ((after? '"' t).bind readText).bind fun (key, rest) =>
    (after? ':' rest).map fun rest => (key, rest)

/-! ## 4. Values -/

section
variable {α : Type}

def readSeries (readOne : Text → Option (α × Text)) (close : Char) :
    (steps : Nat) → Text → Option (List α × Text)
  | 0, _ => none
  | steps + 1, t =>
    match readOne t with
    | none => none
    | some (a, rest) =>
      match after? ',' rest with
      | some rest => (readSeries readOne close steps rest).map fun (as, rest) => (a :: as, rest)
      | none => (after? close rest).map fun rest => ([a], rest)

def readMember (readOne : Text → Option (α × Text)) (t : Text) : Option ((Text × α) × Text) :=
  match readKey t with
  | none => none
  | some (key, rest) => (readOne rest).map fun (a, rest) => ((key, a), rest)

end

/-- The value that a text starts with, and what follows it.  Each value and each item takes a
step, so as many steps as the text has characters are enough. -/
def readValue : (steps : Nat) → Text → Option (Document × Text)
  | 0, _ => none
  | steps + 1, t =>
    match skipSpaces t with
    | [] => none
    | c :: rest =>
      if c = '"' then (readText rest).map fun (s, rest) => (.text s, rest)
      else if c = '[' then
        match after? ']' rest with
        | some rest => some (.list [], rest)
        | none =>
          (readSeries (readValue steps) ']' steps rest).map fun (items, rest) => (.list items, rest)
      else if c = '\x7b' then
        match after? '\x7d' rest with
        | some rest => some (.object [], rest)
        | none =>
          (readSeries (readMember (readValue steps)) '\x7d' steps rest).map fun (members, rest) =>
            (.object members, rest)
      else if isNumberChar c then readNumber (c :: rest)
      else readWord (c :: rest)

def Document.ofText? (t : Text) : Option Document :=
  match readValue t.length t with
  | none => none
  | some (v, rest) => if rest.all isSpace then some v else none

example : Document.ofText? " [-0.5e+3 , \"\\u00e9\\ud83d\\ude00/\" ,\x7b\x7d]\n".toList =
    some (.list [.number "-0.5e+3".toList, .text ['é', '😀', '/'], .object []]) := by cbv

example : Document.ofText? "[1, 02]".toList = none := by cbv

/-! ## 5. Values and their documents -/

mutual

/-- What the text of a value is to say; its numbers are those that are written there. -/
def document : Json → Document
  | flag b => .flag b
  | whole n => .number (Nat.toDigits 10 n)
  | number x => .number (numberLayout.text x)
  | text t => .text t
  | list items => .list (documentItems items)
  | object members => .object (documentMembers members)

def documentItems : List Json → List Document
  | [] => []
  | v :: rest => v.document :: documentItems rest

def documentMembers : List (Text × Json) → List (Text × Document)
  | [] => []
  | (key, v) :: rest => (key, v.document) :: documentMembers rest

end

/-- The values that some JSON text stands for. -/
inductive IsFinite : Json → Prop where
  | flag (b : Bool) : IsFinite (.flag b)
  | whole (n : Nat) : IsFinite (.whole n)
  | number {x : Binary64} (h : x.isFinite = true) : IsFinite (.number x)
  | text (t : Text) : IsFinite (.text t)
  | list {items : List Json} (h : ∀ v ∈ items, IsFinite v) : IsFinite (.list items)
  | object {members : List (Text × Json)} (h : ∀ m ∈ members, IsFinite m.2) :
    IsFinite (.object members)

@[simp] theorem isFinite_flag (b : Bool) : (flag b).IsFinite := .flag b

@[simp] theorem isFinite_whole (n : Nat) : (whole n).IsFinite := .whole n

@[simp] theorem isFinite_text (t : Text) : (text t).IsFinite := .text t

@[simp] theorem isFinite_number_iff {x : Binary64} : (number x).IsFinite ↔ x.isFinite = true := by
  constructor
  · intro h
    cases h
    assumption
  · exact .number

@[simp] theorem isFinite_list_iff {items : List Json} :
    (list items).IsFinite ↔ ∀ v ∈ items, v.IsFinite := by
  constructor
  · intro h
    cases h
    assumption
  · exact .list

@[simp] theorem isFinite_object_iff {members : List (Text × Json)} :
    (object members).IsFinite ↔ ∀ m ∈ members, m.2.IsFinite := by
  constructor
  · intro h
    cases h
    assumption
  · exact .object

/-- Items are read one by one. -/
theorem documentItems_eq_map (items : List Json) : documentItems items = items.map document := by
  induction items with
  | nil => rfl
  | cons v rest ih => rw [documentItems, ih, List.map_cons]

theorem documentMembers_eq_map (members : List (Text × Json)) :
    documentMembers members = members.map fun m => (m.1, m.2.document) := by
  induction members with
  | nil => rfl
  | cons m rest ih => rw [documentMembers, ih, List.map_cons]

theorem map_fst_documentMembers (members : List (Text × Json)) :
    (documentMembers members).map Prod.fst = members.map Prod.fst := by
  rw [documentMembers_eq_map, List.map_map]
  rfl

/-- A member keeps its key, so it is found in the document where it is found in the object. -/
theorem lookup_documentMembers (key : Text) (members : List (Text × Json)) :
    (documentMembers members).lookup key = (members.lookup key).map document := by
  induction members with
  | nil => rfl
  | cons m rest ih =>
    obtain ⟨k, v⟩ := m
    rw [documentMembers, List.lookup_cons, List.lookup_cons, ih]
    cases key == k with
    | true => rfl
    | false => rfl

end Cascade.Json
