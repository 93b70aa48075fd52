import Cascade.Command.Run

/-!
# The steps of a job

Reading a stylesheet and finding the provider print nothing and may fail.  Printing a style and
showing a class do not fail.
-/

namespace Cascade.Command

/-! ## 1. Courses -/

namespace Course
variable {α β : Type}

def Silent (c : Course α) : Prop := c.answer = []

def Finishes (c : Course α) : Prop := ∃ a, c.ending = .ok a

/-- Holds when a course prints no line of an answer in case it fails. -/
def Clean (c : Course α) : Prop := ∀ f, c.ending = .error f → c.Silent

/-- What is printed is printed in the order of the steps, up to the one that fails. -/
theorem answer_bind (c : Course α) (next : α → Course β) :
    (c >>= next).answer = match c.ending with
      | .ok a => c.answer ++ (next a).answer
      | .error _ => c.answer := by
  unfold answer
  rw [events_bind]
  cases c.ending with
  | ok a => exact List.flatMap_append
  | error f => rfl

theorem ending_eq_ok_iff {c : Course α} {a : α} :
    c.ending = .ok a ↔ c.ending.toOption = some a := by
  cases c.ending with
  | ok b => simp [Except.toOption]
  | error f => simp [Except.toOption]

theorem silent_pure (a : α) : (pure a : Course α).Silent := rfl

theorem silent_fail (f : Failure) : (fail f : Course α).Silent := rfl

theorem silent_report (records : List Record) : (report records).Silent := by
  unfold Silent answer report emit
  rw [List.flatMap_map]
  exact List.flatMap_eq_nil_iff.2 fun r _ => rfl

theorem silent_bind {c : Course α} {next : α → Course β} (hc : c.Silent)
    (hnext : ∀ a, (next a).Silent) : (c >>= next).Silent := by
  unfold Silent at *
  rw [answer_bind, hc]
  cases c.ending with
  | ok a => exact hnext a
  | error f => rfl

theorem finishes_pure (a : α) : (pure a : Course α).Finishes := ⟨a, rfl⟩

theorem finishes_emit (events : List Event) : (emit events).Finishes := ⟨(), rfl⟩

/-- A course finishes when its first step does and then what follows from its result. -/
theorem finishes_bind_iff {c : Course α} {next : α → Course β} :
    (c >>= next).Finishes ↔ ∃ a, c.ending = .ok a ∧ (next a).Finishes := by
  constructor
  · rintro ⟨b, hb⟩
    rw [ending_bind] at hb
    cases hending : c.ending with
    | ok a =>
      rw [hending] at hb
      exact ⟨a, rfl, b, hb⟩
    | error f =>
      rw [hending] at hb
      exact absurd hb (by simp)
  · rintro ⟨a, ha, hnext⟩
    unfold Finishes
    rw [ending_bind, ha]
    exact hnext

/-- The same where the result of the first step is computed from something found. -/
theorem finishes_bind_iff_exists {γ : Type} {c : Course α} {found : Option γ} {f : γ → α}
    (h : ∀ a, c.ending = .ok a ↔ ∃ x, found = some x ∧ f x = a) {next : α → Course β} :
    (c >>= next).Finishes ↔ ∃ x, found = some x ∧ (next (f x)).Finishes := by
  rw [finishes_bind_iff]
  constructor
  · rintro ⟨a, ha, hnext⟩
    obtain ⟨x, hx, rfl⟩ := (h a).1 ha
    exact ⟨x, hx, hnext⟩
  · rintro ⟨x, hx, hnext⟩
    exact ⟨f x, (h (f x)).2 ⟨x, hx, rfl⟩, hnext⟩

theorem finishes_bind {c : Course α} {next : α → Course β} (hc : c.Finishes)
    (hnext : ∀ a, (next a).Finishes) : (c >>= next).Finishes := by
  obtain ⟨a, ha⟩ := hc
  exact finishes_bind_iff.2 ⟨a, ha, hnext a⟩

theorem finishes_forM {items : List α} {step : α → Course Unit}
    (h : ∀ a, (step a).Finishes) : (items.forM step).Finishes := by
  induction items with
  | nil => exact finishes_pure ()
  | cons a rest ih => exact finishes_bind (h a) fun _ => ih

theorem Finishes.clean {c : Course α} (h : c.Finishes) : c.Clean := by
  intro f hf
  obtain ⟨a, ha⟩ := h
  rw [ha] at hf
  exact absurd hf (by simp)

/-- What comes before a clean course must print nothing, as the course may still fail. -/
theorem clean_bind {c : Course α} {next : α → Course β} (hc : c.Silent)
    (hnext : ∀ a, (next a).Clean) : (c >>= next).Clean := by
  intro f hf
  unfold Silent at *
  rw [ending_bind] at hf
  rw [answer_bind, hc]
  cases hending : c.ending with
  | ok a =>
    rw [hending] at hf
    exact hnext a f hf
  | error f' => rfl

end Course

/-! ## 2. The same answer -/

structure Outcome.Agree (a b : Outcome) : Prop where
  status : a.status = b.status
  stdout : a.stdout = b.stdout

theorem Outcome.Agree.symm {a b : Outcome} (h : a.Agree b) : b.Agree a :=
  ⟨h.status.symm, h.stdout.symm⟩

theorem Outcome.Agree.trans {a b c : Outcome} (h : a.Agree b) (h' : b.Agree c) : a.Agree c :=
  ⟨h.status.trans h'.status, h.stdout.trans h'.stdout⟩

namespace Course
variable {α β : Type}

structure Agree (c c' : Course α) : Prop where
  answer : c.answer = c'.answer
  ending : c.ending = c'.ending

theorem Agree.trans {a b c : Course α} (h : a.Agree b) (h' : b.Agree c) : a.Agree c :=
  ⟨h.answer.trans h'.answer, h.ending.trans h'.ending⟩

/-- A step that succeeds and prints nothing can be left out. -/
theorem agree_bind {c : Course α} {a : α} (hc : c.Silent) (ha : c.ending = .ok a)
    (next : α → Course β) : (c >>= next).Agree (next a) := by
  constructor
  · rw [answer_bind, ha, show c.answer = [] from hc]
    rfl
  · rw [ending_bind, ha]

theorem Finishes.status {c : Course Unit} (h : c.Finishes) (settings : Settings) :
    (c.outcome settings).status = 0 := by
  obtain ⟨a, ha⟩ := h
  unfold Course.outcome
  rw [ha]

/-- The settings show more diagnostics or fewer, and have no say in anything else. -/
theorem Agree.outcome {c c' : Course Unit} (h : c.Agree c') (settings settings' : Settings) :
    (c.outcome settings).Agree (c'.outcome settings') := by
  unfold Course.outcome
  rw [h.answer, h.ending]
  cases c'.ending with
  | ok a => exact ⟨rfl, rfl⟩
  | error f => exact ⟨rfl, rfl⟩

end Course

/-! ## 3. Reading a stylesheet -/

/-- The text that a stylesheet is read from, if it can be read: that of a file, or of a resource
below the stylesheet directory. -/
def stylesheetText? (files : Resource.FileSystem) (settings : Settings) (stylesheet : Text) :
    Option Text :=
  match files (Resource.Path.ofText stylesheet) with
  | .file bytes => (Resource.decodeFile bytes).toOption
  | _ =>
    match (TextSource.directory files settings.directory settings.extension).read stylesheet with
    | .ok (found, _) => found
    | .error _ => none

section
variable (files : Resource.FileSystem) (settings : Settings) (stylesheet : Text)

/-- Reading a stylesheet leaves only records behind. -/
theorem silent_readSheet : (readSheet files settings stylesheet).Silent := by
  unfold readSheet
  split
  · split
    · exact Course.silent_bind (Course.silent_report _) fun _ => Course.silent_pure _
    · exact Course.silent_fail _
  · split
    · exact Course.silent_bind (Course.silent_report _) fun _ => Course.silent_pure _
    · exact Course.silent_bind (Course.silent_report _) fun _ => Course.silent_fail _
    · exact Course.silent_fail _

/-- It ends with the stylesheet of the text that is found, or it fails. -/
theorem toOption_ending_readSheet :
    (readSheet files settings stylesheet).ending.toOption =
      (stylesheetText? files settings stylesheet).map Sheet.ofText := by
  unfold readSheet stylesheetText? Sheet.load
  generalize (TextSource.directory files settings.directory settings.extension).read stylesheet = r
  cases files (Resource.Path.ofText stylesheet) with
  | file bytes =>
    dsimp only
    cases Resource.decodeFile bytes with
    | ok t => rfl
    | error fault => rfl
  | directory | missing | throughFile =>
    match r with
    | .ok (some t, records) => rfl
    | .ok (none, records) => rfl
    | .error e => rfl

theorem ending_readSheet_eq_ok_iff (sheet : Sheet) :
    (readSheet files settings stylesheet).ending = .ok sheet ↔
      ∃ t, stylesheetText? files settings stylesheet = some t ∧ Sheet.ofText t = sheet := by
  rw [Course.ending_eq_ok_iff, toOption_ending_readSheet, Option.map_eq_some_iff]

end

/-! ## 4. Finding the provider and printing -/

theorem silent_providerFor (c : Subcommand) (settings : Settings) :
    (providerFor c settings).Silent := by
  unfold providerFor
  split
  · exact Course.silent_pure _
  · exact Course.silent_fail _

/-- A provider is found when the platform of the settings is known. -/
theorem ending_providerFor_eq_ok_iff (c : Subcommand) (settings : Settings) (provider : Provider) :
    (providerFor c settings).ending = .ok provider ↔
      ∃ p, Platform.ofText? settings.platform = some p ∧ p.provider = provider := by
  have hending : (providerFor c settings).ending.toOption =
      (Platform.ofText? settings.platform).map Platform.provider := by
    unfold providerFor Provider.ofPlatform
    cases Platform.ofText? settings.platform with
    | some p => rfl
    | none => rfl
  rw [Course.ending_eq_ok_iff, hending, Option.map_eq_some_iff]

theorem finishes_printStyle (provider : Provider) (t : Text) :
    (printStyle provider t).Finishes :=
  Course.finishes_bind (Course.finishes_emit _) fun _ => Course.finishes_emit _

theorem finishes_showClass (sheet : Sheet) (name : Text) : (showClass sheet name).Finishes :=
  Course.finishes_bind (Course.finishes_emit _) fun _ =>
    Course.finishes_bind (Course.finishes_emit _) fun _ =>
      Course.finishes_bind (Course.finishes_emit _) fun _ => Course.finishes_emit _

theorem silent_missingClasses (sheet : Sheet) (stylesheet : Text) (classes : List Text) :
    (Course.emit (missingClasses sheet stylesheet classes)).Silent := by
  unfold Course.Silent Course.answer Course.emit missingClasses
  rw [List.flatMap_map]
  exact List.flatMap_eq_nil_iff.2 fun name _ => rfl

end Cascade.Command
