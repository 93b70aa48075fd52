import Cascade.Text.Basic

/-! What is printed is freed from the sequences that set colors and move the cursor. -/

namespace Cascade.Command

def isParameter (c : Char) : Bool := c.isDigit || c = ';' || c = '?'

def afterSequence? (t : Text) : Option Text :=
  match t.dropWhile isParameter with
  | c :: rest => if c.isAlpha then some rest else none
  | [] => none

theorem length_lt_of_afterSequence? {t rest : Text} (h : afterSequence? t = some rest) :
    rest.length < t.length := by
  have hs := (List.dropWhile_sublist isParameter (l := t)).length_le
  unfold afterSequence? at h
  split at h
  · rename_i c r hd
    split at h
    · simp only [Option.some.injEq] at h
      subst h
      rw [hd, List.length_cons] at hs
      omega
    · simp at h
  · simp at h

def stripSequences : Text → Text
  | [] => []
  | '\x1b' :: '[' :: rest =>
    match _h : afterSequence? rest with
    | some after => stripSequences after
    -- An opening without its letter is printed as it is.
    | none => '\x1b' :: '[' :: stripSequences rest
  | c :: rest => c :: stripSequences rest
termination_by t => t.length
decreasing_by
  · have := length_lt_of_afterSequence? ‹_›
    simp only [List.length_cons]
    omega
  · simp only [List.length_cons]
    omega
  · simp only [List.length_cons]
    omega

/-- Without the escape character there is no sequence to take away. -/
theorem stripSequences_of_not_mem {t : Text} (h : '\x1b' ∉ t) : stripSequences t = t := by
  induction t with
  | nil => rw [stripSequences]
  | cons c rest ih =>
    rw [List.mem_cons, not_or] at h
    rw [stripSequences, ih h.2]
    rintro rest' rfl
    exact absurd rfl h.1

end Cascade.Command
