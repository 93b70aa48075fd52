import Cascade.Command.Request

/-!
# Reading command lines

What a few common shapes of command lines ask for.  After two hyphens there are only words.
-/

namespace Cascade.Command

/-! ## 1. Arguments -/

namespace Grammar
variable {g : Grammar} {arg : Text}

/-- Flags at the front are taken off, and the rest is read as before. -/
theorem read_cons_given {gs : List Given} (hdashes : arg ≠ ['-', '-'])
    (hoption : isOption arg = true) (h : g.readOption arg = .ok (.given gs)) (rest : List Text) :
    g.read (arg :: rest) = (g.read rest).map (·.withOptions gs) := by
  rw [read.eq_def]
  simp only [if_neg hdashes, hoption, if_true, h]

/-- So is an option at the front with the argument behind it, whatever that looks like. -/
theorem read_cons_awaiting {s : Switch} {name : Text} (hdashes : arg ≠ ['-', '-'])
    (hoption : isOption arg = true) (h : g.readOption arg = .ok (.awaiting s name)) (value : Text)
    (rest : List Text) :
    g.read (arg :: value :: rest) = (g.read rest).map (·.withOptions [.valued s value]) := by
  rw [read.eq_def]
  simp only [if_neg hdashes, hoption, if_true, h]

/-- After two hyphens there are only words. -/
theorem read_dashes (words : List Text) : g.read ("--".toList :: words) = .ok ⟨[], words⟩ := by
  rw [read.eq_def]
  rfl

end Grammar

theorem read_platform (value : Text) (rest : List Text) :
    programGrammar.read ("--platform".toList :: value :: rest) =
      (programGrammar.read rest).map (·.withOptions [.valued .platform value]) :=
  Grammar.read_cons_awaiting (by decide) (by decide) rfl value rest

theorem read_verbose (rest : List Text) :
    programGrammar.read ("-v".toList :: rest) =
      (programGrammar.read rest).map (·.withOptions [.flag .verbose]) :=
  Grammar.read_cons_given (by decide) (by decide) rfl rest

/-- The name of a command ends the options of the program. -/
theorem read_name (c : Subcommand) (arguments : List Text) :
    programGrammar.read (c.name :: arguments) = .ok ⟨[], c.name :: arguments⟩ := by
  cases c <;> rfl

/-! ## 2. Requests -/

theorem settingsFor_of_ok {environment : Environment} {s : Settings}
    (h : Settings.ofEnvironment environment = .ok s) (p : Platform) :
    settingsFor environment (some p) false = .ok { s with platform := p.name } := by
  unfold settingsFor
  rw [h]
  rfl

/-- A known command is asked for once the environment has been read. -/
theorem requestOfWords_name (environment : Environment) (platform : Option Platform)
    (verbose : Bool) (c : Subcommand) (arguments : List Text) :
    requestOfWords environment platform verbose (c.name :: arguments) =
      (settingsFor environment platform verbose).bind fun s => c.request s arguments := by
  unfold requestOfWords
  dsimp only
  rw [c.ofName?_name]
  cases settingsFor environment platform verbose with
  | ok s => rfl
  | error f => rfl

/-- Without options the settings are those of the environment. -/
theorem request_name (environment : Environment) (c : Subcommand) (arguments : List Text) :
    request environment (c.name :: arguments) =
      (settingsFor environment none false).bind fun s => c.request s arguments := by
  rw [← requestOfWords_name]
  unfold request
  rw [if_neg (by simp), read_name]
  rfl

theorem request_platform_name {value : Text} {p : Platform} (hp : Platform.ofText? value = some p)
    (environment : Environment) (c : Subcommand) (arguments : List Text) :
    request environment ("--platform".toList :: value :: c.name :: arguments) =
      (settingsFor environment (some p) false).bind fun s => c.request s arguments := by
  have hread : programGrammar.read ("--platform".toList :: value :: c.name :: arguments) =
      .ok ⟨[.valued .platform value], c.name :: arguments⟩ := by
    rw [read_platform, read_name]
    rfl
  have hchosen : chosenPlatform [.valued .platform value] = .ok (some p) := by
    have hlast : lastPlatform? [.valued .platform value] = some value := rfl
    unfold chosenPlatform
    simp only [hlast, hp]
  have hending : [Given.valued .platform value].findSome? (ending? none) = none := rfl
  have hverbose : [Given.valued .platform value].contains (.flag .verbose) = false := rfl
  rw [← requestOfWords_name]
  unfold request
  simp only [List.isEmpty_cons, Bool.false_eq_true, if_false, hread, hending, hchosen, hverbose]

/-- A platform that is chosen on the command line takes the place of the environment's. -/
theorem request_platform {environment : Environment} {s : Settings} {value : Text} {p : Platform}
    (h : Settings.ofEnvironment environment = .ok s) (hp : Platform.ofText? value = some p)
    (c : Subcommand) (arguments : List Text) :
    request environment ("--platform".toList :: value :: c.name :: arguments) =
      c.request { s with platform := p.name } arguments := by
  rw [request_platform_name hp, settingsFor_of_ok h]
  rfl

namespace Subcommand
variable (settings : Settings)

theorem request_parse_dashes (declarations : Text) :
    parse.request settings ["--".toList, declarations] =
      .ok (.run settings (.parse declarations)) := by
  unfold request
  rw [Grammar.read_dashes]
  rfl

theorem request_resolve_dashes (stylesheet name : Text) (rest : List Text) :
    resolve.request settings ("--".toList :: stylesheet :: name :: rest) =
      .ok (.run settings (.resolve stylesheet (name :: rest) false)) := by
  unfold request
  rw [Grammar.read_dashes]
  rfl

theorem request_resolve_raw_dashes (stylesheet name : Text) (rest : List Text) :
    resolve.request settings ("--raw".toList :: "--".toList :: stylesheet :: name :: rest) =
      .ok (.run settings (.resolve stylesheet (name :: rest) true)) := by
  have hread : resolve.grammar.read ("--raw".toList :: "--".toList :: stylesheet :: name :: rest) =
      .ok ⟨[.flag .raw], stylesheet :: name :: rest⟩ := by
    rw [Grammar.read_cons_given (by decide) (by decide) rfl, Grammar.read_dashes]
    rfl
  unfold request
  rw [hread]
  rfl

end Subcommand
end Cascade.Command
