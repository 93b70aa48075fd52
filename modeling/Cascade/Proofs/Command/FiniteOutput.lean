import Cascade.Proofs.Command.CleanFailure
import Cascade.Proofs.Command.PrintedStyle
import Cascade.Proofs.Json.PrintedNumber

/-!
# Only finite numbers are printed

Every number of a style is finite, and so is every number of the text that is printed for one.
-/

namespace Cascade

/-! ## 1. The numbers of a document -/

namespace Json

mutual

def Document.numbers : Document → List Text
  | .number written => [written]
  | .list items => Document.numbersOfItems items
  | .object members => Document.numbersOfMembers members
  | _ => []

def Document.numbersOfItems : List Document → List Text
  | [] => []
  | d :: rest => d.numbers ++ Document.numbersOfItems rest

def Document.numbersOfMembers : List (Text × Document) → List Text
  | [] => []
  | (_, d) :: rest => d.numbers ++ Document.numbersOfMembers rest

end

theorem Document.numbersOfItems_eq_flatMap (items : List Document) :
    numbersOfItems items = items.flatMap numbers := by
  induction items with
  | nil => rfl
  | cons d rest ih => rw [numbersOfItems, ih, List.flatMap_cons]

theorem Document.numbersOfMembers_eq_flatMap (members : List (Text × Document)) :
    numbersOfMembers members = members.flatMap fun m => m.2.numbers := by
  induction members with
  | nil => rfl
  | cons m rest ih => rw [numbersOfMembers, ih, List.flatMap_cons]

/-- Holds for documents all of whose numbers are read as doubles, which are finite then. -/
def Document.IsFinite (d : Document) : Prop :=
  ∀ written ∈ d.numbers, ∃ x, Binary64.ofText? written = some x

mutual

def wholes : Json → List Nat
  | whole n => [n]
  | list items => wholesOfItems items
  | object members => wholesOfMembers members
  | _ => []

def wholesOfItems : List Json → List Nat
  | [] => []
  | v :: rest => v.wholes ++ wholesOfItems rest

def wholesOfMembers : List (Text × Json) → List Nat
  | [] => []
  | (_, v) :: rest => v.wholes ++ wholesOfMembers rest

end

theorem wholesOfItems_eq_flatMap (items : List Json) :
    wholesOfItems items = items.flatMap wholes := by
  induction items with
  | nil => rfl
  | cons v rest ih => rw [wholesOfItems, ih, List.flatMap_cons]

theorem wholesOfMembers_eq_flatMap (members : List (Text × Json)) :
    wholesOfMembers members = members.flatMap fun m => m.2.wholes := by
  induction members with
  | nil => rfl
  | cons m rest ih => rw [wholesOfMembers, ih, List.flatMap_cons]

/-- The digits of a natural number up to 2^53 are read as a double. -/
theorem exists_ofText?_toDigits {n : Nat} (h : n ≤ 2 ^ 53) :
    ∃ x, Binary64.ofText? (Nat.toDigits 10 n) = some x := by
  obtain ⟨digits, hne, htext, hnumber⟩ := Digit.exists_text_eq_toDigits n
  let s : Spelling := ⟨.absent, .whole digits hne none, none⟩
  have hs : s.text = Nat.toDigits 10 n := htext ▸ List.append_nil _
  have hvalue : s.value = n := by
    show (Digit.number digits + Digit.number [] / 10 ^ 0 : ℚ) * 10 ^ (0 : Int) = n
    rw [hnumber]
    simp [Digit.number]
  have hbound : ((2 ^ 53 : Nat) : ℚ) < Binary64.overflow := by decide +kernel
  have hle : (n : ℚ) ≤ (2 ^ 53 : Nat) := by exact_mod_cast h
  rw [← hs, Binary64.ofText?_text, hvalue, abs_of_nonneg (Nat.cast_nonneg n),
    if_pos (hle.trans_lt hbound)]
  exact ⟨_, rfl⟩

/-- What is printed for a value holds only numbers that can be read, unless a whole number is too
large. -/
theorem isFinite_document {v : Json} (hv : v.IsFinite) (hwholes : ∀ n ∈ v.wholes, n ≤ 2 ^ 53) :
    v.document.IsFinite := by
  unfold Document.IsFinite
  -- On how finite values are built, so that lists and objects have it from their parts.
  induction hv with
  | flag b => simp [document, Document.numbers]
  | text t => simp [document, Document.numbers]
  | whole n =>
    intro written hwritten
    cases List.mem_singleton.1 hwritten
    exact exists_ofText?_toDigits (hwholes n List.mem_cons_self)
  -- The text of a double reads back as that double, so in particular it can be read.
  | @number x hx =>
    intro written hwritten
    cases List.mem_singleton.1 hwritten
    obtain ⟨s, hs, -, hback, -⟩ := exists_isPrinted_text hx
    rw [← hs]
    exact ⟨x, Spelling.ofText?_text_eq hback hx⟩
  | @list items _ ih =>
    intro written hwritten
    rw [document, Document.numbers, Document.numbersOfItems_eq_flatMap, documentItems_eq_map,
      List.flatMap_map] at hwritten
    rw [wholes, wholesOfItems_eq_flatMap] at hwholes
    obtain ⟨v, hv, hmem⟩ := List.mem_flatMap.1 hwritten
    exact ih v hv (fun n hn => hwholes n (List.mem_flatMap.2 ⟨v, hv, hn⟩)) written hmem
  | @object members _ ih =>
    intro written hwritten
    rw [document, Document.numbers, Document.numbersOfMembers_eq_flatMap, documentMembers_eq_map,
      List.flatMap_map] at hwritten
    rw [wholes, wholesOfMembers_eq_flatMap] at hwholes
    obtain ⟨m, hm, hmem⟩ := List.mem_flatMap.1 hwritten
    exact ih m hm (fun n hn => hwholes n (List.mem_flatMap.2 ⟨m, hm, hn⟩)) written hmem

end Json

/-! ## 2. The numbers of a style -/

/-- A whole font size comes from a keyword, or is small enough to be a double. -/
theorem FontSize.le_of_mem_wholes_toJson {size : FontSize} (h : size.IsExact) :
    ∀ n ∈ size.toJson.wholes, n ≤ 2 ^ 53 := by
  cases size with
  | scaled style => simp [toJson, Json.wholes, Json.wholesOfMembers]
  | fixed points =>
    cases points with
    | whole n =>
      intro m hm
      cases List.mem_singleton.1 hm
      exact h
    | measured x => simp [toJson, Points.toJson, Json.wholes, Json.wholesOfMembers]

/-- Only a font size can be a whole number. -/
theorem Field.le_of_mem_wholes_encode (f : Field) {value : f.Value} (h : f.IsExact value) {v : Json}
    (hv : f.encode value = some v) : ∀ n ∈ v.wholes, n ≤ 2 ^ 53 := by
  have hnone {α : Type} {encode : α → Json} (hencode : ∀ a, (encode a).wholes = [])
      {value : Option α} (hv : value.map encode = some v) : ∀ n ∈ v.wholes, n ≤ 2 ^ 53 := by
    obtain ⟨a, -, rfl⟩ := Option.map_eq_some_iff.1 hv
    simp [hencode]
  cases f with
  | foregroundColor | backgroundColor | borderColor | decorationColor =>
    exact hnone (fun c => by cases c <;> rfl) hv
  | fontSize =>
    obtain ⟨size, hsize, rfl⟩ := Option.map_eq_some_iff.1 hv
    exact FontSize.le_of_mem_wholes_toJson (h size hsize)
  | italic | underline | strikethrough =>
    cases hv
    simp [Json.wholes]
  | _ => exact hnone (fun _ => rfl) hv

theorem Style.isFinite_document_ofText {provider : Provider} (hprovider : provider.IsFinite)
    (t : Text) : (ofText provider t).toJson.document.IsFinite := by
  apply Json.isFinite_document (isFinite_toJson_ofText hprovider t)
  intro n hn
  rw [toJson, Json.wholes, Json.wholesOfMembers_eq_flatMap, members_eq_present] at hn
  obtain ⟨m, hm, hmem⟩ := List.mem_flatMap.1 hn
  obtain ⟨f, -, v, hv, rfl⟩ := Json.mem_present.1 hm
  exact f.le_of_mem_wholes_encode (isExact_get_ofText provider t f) hv n hmem

namespace Command

/-! ## 3. The command -/

def Job.PrintsStyle : Job → Prop
  | .parse _ => True
  | .resolve _ _ raw => raw = false
  | .inspect _ => False

/-- A job that is possible prints the style of some text, on some platform. -/
theorem exists_agree_printStyle {files : Resource.FileSystem} {settings : Settings} {job : Job}
    (hjob : job.PrintsStyle) (hpossible : job.Possible files settings) :
    ∃ (p : Platform) (t : Text),
      (job.course files settings).Agree (printStyle p.provider t) := by
  cases job with
  | parse declarations =>
    obtain ⟨p, hp⟩ := Option.isSome_iff_exists.1 hpossible
    exact ⟨p, declarations, agree_parse hp declarations⟩
  | resolve stylesheet classes raw =>
    cases hjob
    obtain ⟨t, ht⟩ := Option.isSome_iff_exists.1 hpossible.1
    obtain ⟨p, hp⟩ := Option.isSome_iff_exists.1 (hpossible.2 rfl)
    exact ⟨p, (Sheet.ofText t).resolve classes,
      (agree_resolve ht classes false).trans (agree_printStyle hp .resolve _)⟩
  | inspect stylesheet => exact hjob.elim

/-- Such a job fails without an answer, or its answer is a JSON text of finite numbers. -/
theorem Job.outcome_of_printsStyle {job : Job} (hjob : job.PrintsStyle)
    (files : Resource.FileSystem) (settings : Settings) :
    let o := (job.course files settings).outcome settings
    o.status ≠ 0 ∧ o.stdout = [] ∨
      o.status = 0 ∧ ∃ d, Json.Document.ofText? o.stdout = some d ∧ d.IsFinite := by
  dsimp only
  rcases (job.course_clean files settings).outcome_eq settings with
    ⟨hfinishes, hstatus⟩ | ⟨-, f, hfails⟩
  · right
    obtain ⟨p, t, hagree⟩ :=
      exists_agree_printStyle hjob ((job.course_finishes_iff files settings).1 hfinishes)
    have hfinite := Style.isFinite_toJson_ofText p.isFinite_provider t
    refine ⟨hstatus, _, ?_, Style.isFinite_document_ofText p.isFinite_provider t⟩
    rw [(hagree.outcome settings settings).stdout, stdout_printStyle, printed_toJson hfinite]
    exact Json.ofText?_print hfinite ['\n'] (List.all_eq_true.1 (by decide))
  · left
    rw [hfails]
    exact ⟨f.status_ne_zero, rfl⟩

/-- **Only finite numbers are printed.**  Whatever the text, the style that it is read as has finite
numbers, with the colors of every platform and with those of a palette whose channels are finite.
So whatever the command line, the environment and the files, a command that prints a style either
fails and prints nothing, or it prints a JSON text in which every number is read as a finite
double. -/
theorem isFinite_style_and_stdout :
    (∀ (p : Platform) (t : Text), (Style.ofText p.provider t).toJson.IsFinite) ∧
    (∀ palette : Palette, (∀ name, ∀ c ∈ palette.find? name, c.isFinite = true) →
      ∀ t : Text, (Style.ofText (.palette palette) t).toJson.IsFinite) ∧
    ∀ (environment : Environment) (files : Resource.FileSystem) (arguments : List Text)
      (settings : Settings) (job : Job),
      request environment arguments = .ok (.run settings job) → job.PrintsStyle →
        let o := run environment files arguments
        o.status ≠ 0 ∧ o.stdout = [] ∨
          o.status = 0 ∧ ∃ d, Json.Document.ofText? o.stdout = some d ∧ d.IsFinite := by
  refine ⟨?_, ?_, ?_⟩
  · intro p t
    exact Style.isFinite_toJson_ofText p.isFinite_provider t
  · intro palette hpalette t
    apply Style.isFinite_toJson_ofText
    intro name c hc
    obtain ⟨rgba, hfound, rfl⟩ := Option.map_eq_some_iff.1 hc
    exact hpalette name rgba hfound
  · intro environment files arguments settings job hrequest hjob o
    -- A request that was understood is carried out as its job.
    have hrun : o = (job.course files settings).outcome settings := by
      show run environment files arguments = _
      unfold run
      rw [hrequest]
      rfl
    rw [hrun]
    exact Job.outcome_of_printsStyle hjob files settings

/-- A number that is too large for a double, a negative zero, a whole font size, and a color that
only the palette gives by its channels. -/
theorem isFinite_style_and_stdout_overflow :
    let t := "font-size: large; offset: 1e309 -0 5e2; border-color: label".toList
    let palette : Palette := ⟨"p".toList, [("label".toList, ⟨.one, .zero true, .one, .one⟩)]⟩
    let files := (Resource.FileTree.mk []).fileSystem
    let o := run [] files ["parse".toList, "--".toList, t]
    (Style.ofText (Platform.provider .appkit) t).toJson.IsFinite ∧
      (Style.ofText (.palette palette) t).toJson.IsFinite ∧ o.status = 0 ∧
      ∃ d, Json.Document.ofText? o.stdout = some d ∧ d.IsFinite ∧
        d.numbers = ["20", "-0.0", "500.0"].map String.toList := by
  intro t palette files o
  have hrequest : request [] ["parse".toList, "--".toList, t] =
      .ok (.run ⟨"deferred".toList, ['.'], "css".toList, .warning⟩ (.parse t)) := by
    decide +kernel
  have hpalette : ∀ name, ∀ c ∈ palette.find? name, c.isFinite = true := by
    intro name c hc
    have hall : ∀ m ∈ palette.colors, m.2.isFinite = true := by decide +kernel
    exact hall (name, c) (mem_of_lookup_eq_some hc)
  have hstatus : o.status = 0 := by decide +kernel
  have hnumbers : (Json.Document.ofText? o.stdout).map Json.Document.numbers =
      some (["20", "-0.0", "500.0"].map String.toList) := by
    decide +kernel
  obtain ⟨hplatform, hown, hrun⟩ := isFinite_style_and_stdout
  rcases hrun [] files _ _ _ hrequest trivial with ⟨hfails, -⟩ | ⟨-, d, hd, hfinite⟩
  · exact absurd hstatus hfails
  · rw [hd, Option.map_some, Option.some.injEq] at hnumbers
    exact ⟨hplatform .appkit t, hown palette hpalette t, hstatus, d, hd, hfinite, hnumbers⟩

end Command
end Cascade
