import Cascade.Text.Basic

/-! A comment runs from `/*` to the next `*/`.  Without a `*/` the opening is no comment, and it
stays with everything after it. -/

namespace Cascade.Comment

def afterClose? : Text → Option Text
  | [] => none
  | '*' :: '/' :: rest => some rest
  | _ :: rest => afterClose? rest

theorem length_lt_of_afterClose? {t rest : Text} (h : afterClose? t = some rest) :
    rest.length < t.length := by
  fun_induction afterClose? t with
  | case1 => simp at h
  | case2 r =>
    simp only [Option.some.injEq] at h
    subst h
    simp only [List.length_cons]
    omega
  | case3 c r _ ih =>
    have := ih h
    simp only [List.length_cons]
    omega

def strip : Text → Text
  | [] => []
  | '/' :: '*' :: rest =>
    match _h : afterClose? rest with
    | some after => strip after
    -- Nothing closes this comment, so nothing after it is one either.
    | none => '/' :: '*' :: rest
  | c :: rest => c :: strip rest
termination_by t => t.length
decreasing_by
  · have := length_lt_of_afterClose? ‹_›
    simp only [List.length_cons]
    omega
  · simp only [List.length_cons]
    omega

end Cascade.Comment
