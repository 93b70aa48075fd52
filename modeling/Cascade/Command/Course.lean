import Cascade.Command.Failure

/-!
# Courses

A job makes events that can be seen, one after the other, and then it ends with a value or with a
failure.  A failure takes nothing back: what has been printed by then stays printed.
-/

namespace Cascade.Command

inductive Event where
  /-- A line of the answer. -/
  | line (t : Text)
  | record (r : Record)
  | noClass (name stylesheet : Text)
deriving DecidableEq, Repr

structure Course (α : Type) where
  events : List Event
  ending : Except Failure α

namespace Course
variable {α β : Type}

def fail (f : Failure) : Course α := ⟨[], .error f⟩

def emit (events : List Event) : Course Unit := ⟨events, .ok ()⟩

def printLine (t : Text) : Course Unit := emit [.line t]

def report (records : List Record) : Course Unit := emit (records.map .record)

def bind (c : Course α) (next : α → Course β) : Course β :=
  match c.ending with
  | .ok a => ⟨c.events ++ (next a).events, (next a).ending⟩
  | .error f => ⟨c.events, .error f⟩

instance : Monad Course where
  pure a := ⟨[], .ok a⟩
  bind := bind

/-- A failure keeps what comes next from taking place, but not what came before it. -/
theorem events_bind (c : Course α) (next : α → Course β) :
    (c >>= next).events = match c.ending with
      | .ok a => c.events ++ (next a).events
      | .error _ => c.events := by
  show (bind c next).events = _
  unfold bind
  cases c.ending with
  | ok a => rfl
  | error f => rfl

theorem ending_bind (c : Course α) (next : α → Course β) :
    (c >>= next).ending = match c.ending with
      | .ok a => (next a).ending
      | .error f => .error f := by
  show (bind c next).ending = _
  unfold bind
  cases c.ending with
  | ok a => rfl
  | error f => rfl

end Course
end Cascade.Command
