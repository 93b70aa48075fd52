import Cascade.Proofs.Command.Steps

/-!
# A failure leaves no answer behind

What may still fail comes only after steps that print nothing.  So a command line gives its whole
answer and ends with status 0, or it gives none and says on the error stream why.
-/

namespace Cascade.Command

/-! ## 1. Jobs -/

/-- A job fails, if it does, before it has printed anything. -/
theorem Job.course_clean (files : Resource.FileSystem) (settings : Settings) (job : Job) :
    (job.course files settings).Clean := by
  cases job with
  | parse declarations =>
    exact Course.clean_bind (silent_providerFor _ _) fun provider =>
      (finishes_printStyle provider declarations).clean
  | resolve stylesheet classes raw =>
    refine Course.clean_bind (silent_readSheet files settings stylesheet) fun sheet => ?_
    refine Course.clean_bind (silent_missingClasses sheet stylesheet classes) fun _ => ?_
    refine Course.clean_bind (Course.silent_report _) fun _ => ?_
    cases raw with
    | true => exact (Course.finishes_emit _).clean
    | false =>
      exact Course.clean_bind (silent_providerFor _ _) fun provider =>
        (finishes_printStyle provider (sheet.resolve classes)).clean
  | inspect stylesheet =>
    refine Course.clean_bind (silent_readSheet files settings stylesheet) fun sheet => ?_
    -- From the first line on nothing can fail any more.
    exact (Course.finishes_bind (Course.finishes_emit _) fun _ =>
      Course.finishes_forM (finishes_showClass sheet)).clean

/-- What a job needs to give its answer: its stylesheet, and a known platform for the colors of a
style. -/
def Job.Possible (files : Resource.FileSystem) (settings : Settings) : Job → Prop
  | .parse _ => (Platform.ofText? settings.platform).isSome
  | .resolve stylesheet _ raw =>
    (stylesheetText? files settings stylesheet).isSome ∧
      (raw = false → (Platform.ofText? settings.platform).isSome)
  | .inspect stylesheet => (stylesheetText? files settings stylesheet).isSome

/-- A job gives its answer exactly when it has what it needs. -/
theorem Job.course_finishes_iff (files : Resource.FileSystem) (settings : Settings) (job : Job) :
    (job.course files settings).Finishes ↔ job.Possible files settings := by
  have hstyle (c : Subcommand) (t : Text) :
      (providerFor c settings >>= fun provider => printStyle provider t).Finishes ↔
        (Platform.ofText? settings.platform).isSome = true := by
    rw [Course.finishes_bind_iff_exists (ending_providerFor_eq_ok_iff c settings),
      Option.isSome_iff_exists]
    exact exists_congr fun p => and_iff_left (finishes_printStyle p.provider t)
  unfold Job.course Job.Possible
  cases job with
  | parse declarations => exact hstyle .parse declarations
  | resolve stylesheet classes raw =>
    dsimp only
    rw [Course.finishes_bind_iff_exists (ending_readSheet_eq_ok_iff files settings stylesheet),
      Option.isSome_iff_exists, ← exists_and_right]
    refine exists_congr fun t => and_congr_right fun _ => ?_
    -- With the raw option no provider is needed, and without it the platform must be known.
    cases raw with
    | true => exact ⟨fun _ h => absurd h (by simp), fun _ => Course.finishes_emit _⟩
    | false => exact (hstyle .resolve _).trans ⟨fun h _ => h, fun h => h rfl⟩
  | inspect stylesheet =>
    dsimp only
    rw [Course.finishes_bind_iff_exists (ending_readSheet_eq_ok_iff files settings stylesheet),
      Option.isSome_iff_exists]
    refine exists_congr fun t => and_iff_left ?_
    exact Course.finishes_bind (Course.finishes_emit _) fun _ =>
      Course.finishes_forM (finishes_showClass _)

/-- The warnings of the classes that are missing come before everything that may fail once the
stylesheet has been read. -/
theorem Job.mem_events_resolve {files : Resource.FileSystem} {settings : Settings}
    {stylesheet t : Text} (h : stylesheetText? files settings stylesheet = some t)
    (classes : List Text) (raw : Bool) {e : Event}
    (he : e ∈ missingClasses (Sheet.ofText t) stylesheet classes) :
    e ∈ ((Job.resolve stylesheet classes raw).course files settings).events := by
  have hending := (ending_readSheet_eq_ok_iff files settings stylesheet _).2 ⟨t, h, rfl⟩
  unfold Job.course
  dsimp only
  rw [Course.events_bind, hending]
  exact List.mem_append_right _ (List.mem_append_left _ he)

/-! ## 2. Runs -/

theorem Failure.status_eq (f : Failure) : f.status = 1 ∨ f.status = 2 := by
  cases f <;> simp [Failure.status]

theorem Failure.status_ne_zero (f : Failure) : f.status ≠ 0 := by
  rcases f.status_eq with h | h <;> rw [h] <;> decide

/-- A clean course succeeds, or it shows its diagnostics and the failure and nothing else. -/
theorem Course.Clean.outcome_eq {c : Course Unit} (h : c.Clean) (settings : Settings) :
    (c.Finishes ∧ (c.outcome settings).status = 0) ∨
      ¬ c.Finishes ∧ ∃ f : Failure, c.outcome settings =
        ⟨f.status, [], c.diagnostics settings ++ f.text⟩ := by
  unfold outcome Finishes
  cases hending : c.ending with
  | ok a => exact Or.inl ⟨⟨a, rfl⟩, rfl⟩
  | error f =>
    have hanswer : c.answer = [] := h f hending
    rw [hanswer]
    exact Or.inr ⟨by simp, f, rfl⟩

/-- A diagnostic is shown whether or not the course goes on to fail. -/
theorem Course.diagnostic_infix_stderr (settings : Settings) {c : Course Unit} {e : Event}
    (h : e ∈ c.events) : e.diagnostic settings <:+: (c.outcome settings).stderr := by
  have hinfix : e.diagnostic settings <:+: c.diagnostics settings := by
    obtain ⟨before, after, hevents⟩ := List.append_of_mem h
    unfold diagnostics
    rw [hevents, List.flatMap_append, List.flatMap_cons]
    exact ⟨_, _, List.append_assoc _ _ _⟩
  unfold outcome
  cases c.ending with
  | ok a => exact hinfix
  | error f => exact hinfix.trans (List.prefix_append _ _).isInfix

def Request.Possible (files : Resource.FileSystem) : Request → Prop
  | .version | .help _ => True
  | .run settings job => job.Possible files settings

theorem Request.outcome_eq (files : Resource.FileSystem) (r : Request) :
    (r.Possible files ∧ (r.outcome files).status = 0) ∨
      ¬ r.Possible files ∧ (r.outcome files).stdout = [] ∧
        ∃ f : Failure, (r.outcome files).status = f.status ∧
          f.text <:+ (r.outcome files).stderr := by
  cases r with
  | version => exact Or.inl ⟨trivial, rfl⟩
  | help scope => exact Or.inl ⟨trivial, rfl⟩
  | run settings job =>
    have hclean := job.course_clean files settings
    rcases hclean.outcome_eq settings with ⟨hfinishes, hstatus⟩ | ⟨hfails, f, houtcome⟩
    · exact Or.inl ⟨(job.course_finishes_iff files settings).1 hfinishes, hstatus⟩
    · refine Or.inr ⟨mt (job.course_finishes_iff files settings).2 hfails, ?_⟩
      unfold Request.outcome
      dsimp only
      rw [houtcome]
      exact ⟨rfl, f, rfl, List.suffix_append _ _⟩

section
variable (environment : Environment) (files : Resource.FileSystem) (arguments : List Text)

/-- A command line is answered, with status 0, or it is not and a failure ends the error stream. -/
theorem run_eq :
    ((∃ r, request environment arguments = .ok r ∧ r.Possible files) ∧
        (run environment files arguments).status = 0) ∨
      (¬ ∃ r, request environment arguments = .ok r ∧ r.Possible files) ∧
        (run environment files arguments).stdout = [] ∧
        ∃ f : Failure, (run environment files arguments).status = f.status ∧
          f.text <:+ (run environment files arguments).stderr := by
  unfold run
  cases request environment arguments with
  | error f => exact Or.inr ⟨by simp, rfl, f, rfl, List.suffix_refl _⟩
  | ok r =>
    rcases r.outcome_eq files with ⟨hpossible, hstatus⟩ | ⟨himpossible, hfailed⟩
    · exact Or.inl ⟨⟨r, rfl, hpossible⟩, hstatus⟩
    · refine Or.inr ⟨?_, hfailed⟩
      rintro ⟨r', hr, hpossible⟩
      rw [← Except.ok.inj hr] at hpossible
      exact himpossible hpossible

/-- The warning of a missing class is shown in any case. -/
theorem warning_infix_stderr_run {settings : Settings} {stylesheet t name : Text}
    {classes : List Text} {raw : Bool}
    (hrequest : request environment arguments =
      .ok (.run settings (.resolve stylesheet classes raw)))
    (ht : stylesheetText? files settings stylesheet = some t) (hname : name ∈ classes)
    (hmissing : (Sheet.ofText t).contains name = false) :
    (Event.noClass name stylesheet).diagnostic settings <:+:
      (run environment files arguments).stderr := by
  have hevent : Event.noClass name stylesheet ∈
      missingClasses (Sheet.ofText t) stylesheet classes :=
    List.mem_map.2 ⟨name, List.mem_filter.2 ⟨hname, by rw [hmissing]; rfl⟩, rfl⟩
  unfold run
  rw [hrequest]
  exact Course.diagnostic_infix_stderr settings (Job.mem_events_resolve ht classes raw hevent)

/-- **A failure leaves no answer behind.**  The status is 0 exactly when the command line can be
understood and its stylesheet and platform can be had, and otherwise it is 1 or 2: then the standard
output is empty, and the failure ends the error stream.  There too, whether the run succeeds or
fails, is the warning of each class that a stylesheet does not have. -/
theorem run_fails_without_answer :
    let outcome := run environment files arguments
    (outcome.status = 0 ∨ outcome.status = 1 ∨ outcome.status = 2) ∧
      (outcome.status = 0 ↔ ∃ r, request environment arguments = .ok r ∧ r.Possible files) ∧
      (outcome.status ≠ 0 → outcome.stdout = [] ∧
        ∃ f : Failure, outcome.status = f.status ∧ f.text <:+ outcome.stderr) ∧
      ∀ settings stylesheet classes raw t,
        request environment arguments = .ok (.run settings (.resolve stylesheet classes raw)) →
        stylesheetText? files settings stylesheet = some t →
        ∀ name ∈ classes, (Sheet.ofText t).contains name = false →
          (Event.noClass name stylesheet).diagnostic settings <:+: outcome.stderr := by
  intro outcome
  have hwarnings := @warning_infix_stderr_run environment files arguments
  -- The run succeeds with its answer, or it fails without one; the warnings are the same in both.
  rcases run_eq environment files arguments with
    ⟨hpossible, hstatus⟩ | ⟨himpossible, hstdout, f, hstatus, hsuffix⟩
  · refine ⟨Or.inl hstatus, iff_of_true hstatus hpossible, fun hne => absurd hstatus hne, ?_⟩
    exact fun _ _ _ _ _ hrequest ht _ => hwarnings hrequest ht
  · have hne : outcome.status ≠ 0 := by
      rw [hstatus]
      exact f.status_ne_zero
    refine ⟨Or.inr ?_, iff_of_false hne himpossible, fun _ => ⟨hstdout, f, hstatus, hsuffix⟩, ?_⟩
    · rw [hstatus]
      exact f.status_eq
    · exact fun _ _ _ _ _ hrequest ht _ => hwarnings hrequest ht

end

/-- The platform comes from the environment and is unknown, which shows only after the warning. -/
theorem run_resolve_unknown_platform :
    let environment := [("CSSDECL_PLATFORM".toList, "nokia".toList)]
    let sheet := ".a \x7b color: red \x7d".toList
    let files := (Resource.FileTree.mk [(["s.css".toList], Text.Utf8.encode sheet)]).fileSystem
    let arguments := ["resolve".toList, "s".toList, "b".toList, "a".toList]
    let settings : Settings := ⟨"nokia".toList, ['.'], "css".toList, .warning⟩
    let outcome := run environment files arguments
    request environment arguments =
        .ok (.run settings (.resolve "s".toList ["b".toList, "a".toList] false)) ∧
      stylesheetText? files settings "s".toList = some sheet ∧
      (Sheet.ofText sheet).contains "b".toList = false ∧
      outcome.status = 2 ∧ outcome.stdout = [] ∧
      "Warning: no class 'b' in s\n".toList <:+: outcome.stderr := by
  intro environment sheet files arguments settings outcome
  have hrequest : request environment arguments =
      .ok (.run settings (.resolve "s".toList ["b".toList, "a".toList] false)) := rfl
  have ht : stylesheetText? files settings "s".toList = some sheet := by decide +kernel
  have hmissing : (Sheet.ofText sheet).contains "b".toList = false := by decide +kernel
  have hstatus : outcome.status = 2 := by decide +kernel
  have htext : (Event.noClass "b".toList "s".toList).diagnostic settings =
      "Warning: no class 'b' in s\n".toList := by decide +kernel
  obtain ⟨-, -, hfailed, hwarnings⟩ := run_fails_without_answer environment files arguments
  have hne : outcome.status ≠ 0 := by
    rw [hstatus]
    decide
  have hwarning := hwarnings settings _ _ _ sheet hrequest ht _ List.mem_cons_self hmissing
  rw [htext] at hwarning
  exact ⟨hrequest, ht, hmissing, hstatus, (hfailed hne).1, hwarning⟩

end Cascade.Command
