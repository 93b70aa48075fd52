import Cascade.Text.Basic

/-! Arguments are options and words.  A grammar says which options there are, and whether they may
stand between words or only before the first one. -/

namespace Cascade.Command

inductive Switch where
  | platform
  | verbose
  | version
  | help
  | raw
deriving DecidableEq, Repr

def Switch.takesValue : Switch → Bool
  | .platform => true
  | _ => false

inductive Given where
  | flag (s : Switch)
  | valued (s : Switch) (value : Text)
deriving DecidableEq, Repr

structure Grammar where
  long : List (Text × Switch)
  short : List (Char × Switch)
  interspersed : Bool

inductive OptionFault where
  | unknown (name : Text)
  | missingValue (name : Text)
  | unwantedValue (name : Text)
deriving DecidableEq, Repr

structure Arguments where
  options : List Given
  words : List Text
deriving DecidableEq, Repr

def Arguments.withOptions (gs : List Given) (a : Arguments) : Arguments :=
  ⟨gs ++ a.options, a.words⟩

def Arguments.withWord (w : Text) (a : Arguments) : Arguments := ⟨a.options, w :: a.words⟩

namespace Grammar

inductive Reading where
  | given (gs : List Given)
  | awaiting (s : Switch) (name : Text)
deriving DecidableEq, Repr

def readShort (g : Grammar) : Text → Except OptionFault (List Given)
  | [] => .ok []
  | c :: rest =>
    match g.short.lookup c with
    | some s => (g.readShort rest).map (.flag s :: ·)
    | none => .error (.unknown ['-', c])

def cutValue (arg : Text) : Text × Option Text :=
  match Text.breakOn '=' arg with
  | some (name, value) => (name, some value)
  | none => (arg, none)

def readOption (g : Grammar) (arg : Text) : Except OptionFault Reading :=
  -- A long option goes by its whole name; without one of that name a single hyphen starts
  -- short ones.
  let (name, value) := cutValue arg
  match g.long.lookup name, value with
  | some s, some v =>
    if s.takesValue then .ok (.given [.valued s v]) else .error (.unwantedValue name)
  | some s, none => if s.takesValue then .ok (.awaiting s name) else .ok (.given [.flag s])
  | none, _ =>
    if ['-', '-'].isPrefixOf arg then .error (.unknown name)
    else (g.readShort arg.tail).map .given

def isOption : Text → Bool
  | '-' :: _ :: _ => true
  | _ => false

def read (g : Grammar) : List Text → Except OptionFault Arguments
  | [] => .ok ⟨[], []⟩
  | arg :: rest =>
    if arg = ['-', '-'] then .ok ⟨[], rest⟩
    else if isOption arg then
      match g.readOption arg with
      | .error fault => .error fault
      | .ok (.given gs) => (g.read rest).map (·.withOptions gs)
      -- The next argument is the value, whatever it looks like.
      | .ok (.awaiting s name) =>
        match rest with
        | [] => .error (.missingValue name)
        | value :: rest => (g.read rest).map (·.withOptions [.valued s value])
    else if g.interspersed then (g.read rest).map (·.withWord arg)
    -- The first word ends the options of a grammar that keeps them together.
    else .ok ⟨[], arg :: rest⟩

end Grammar
end Cascade.Command
