import Cascade.Number.Binary64
import Cascade.Text.Basic

/-! JSON values, whose members keep their order and whose numbers are whole or doubles. -/

namespace Cascade

inductive Json where
  | flag (b : Bool)
  | whole (n : Nat)
  | number (x : Binary64)
  | text (t : Text)
  | list (items : List Json)
  | object (members : List (Text × Json))

end Cascade
