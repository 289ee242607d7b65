import FrameworkForge.CommandLine.Run

/-! A sign of verbosity in front of a command line. The run is the same with it and without it, and
the error stream tells the same beside the log. -/

namespace FrameworkForge

/-- A record with all that is known of it. -/
def LogRecord.full (entry : LogRecord) : String :=
  entry.severity.label ++ " " ++ entry.logger.label ++ ": " ++ entry.message

/-- Two streams, text by text, that are alike but for the log. A line stands in both. A record
stands in full in the first; an error stands in the second by its message, other records do not. -/
inductive AlikeButLog : List String → List String → Prop
  | nil : AlikeButLog [] []
  | line (text : String) {loud quiet : List String} (rest : AlikeButLog loud quiet) :
      AlikeButLog (text :: loud) (text :: quiet)
  | error {entry : LogRecord} (severity : entry.severity = .error) {loud quiet : List String}
      (rest : AlikeButLog loud quiet) : AlikeButLog (entry.full :: loud) (entry.message :: quiet)
  | debug {entry : LogRecord} (severity : entry.severity = .debug) {loud quiet : List String}
      (rest : AlikeButLog loud quiet) : AlikeButLog (entry.full :: loud) quiet

theorem alikeButLog_shown (notices : List Notice) :
    AlikeButLog (notices.filterMap (Notice.shown? true))
      (notices.filterMap (Notice.shown? false)) := by
  induction notices with
  | nil => exact .nil
  | cons notice notices ih =>
    cases notice with
    | line text => exact .line text ih
    | record entry =>
      have hloud : Notice.shown? true (.record entry) = some entry.full := rfl
      rw [List.filterMap_cons_some hloud]
      cases hseverity : entry.severity with
      | error =>
        have hquiet : Notice.shown? false (.record entry) = some entry.message := by
          simp [Notice.shown?, hseverity]
        rw [List.filterMap_cons_some hquiet]
        exact .error hseverity ih
      | debug =>
        have hquiet : Notice.shown? false (.record entry) = none := by
          simp [Notice.shown?, hseverity]
        rw [List.filterMap_cons_none hquiet]
        exact .debug hseverity ih

namespace CommandLine

def verbositySigns : List String := ["-v", "--verbose"]

theorem isVerbose_iff {words : List String} :
    isVerbose words = true ↔ ∃ word ∈ words.head?, word ∈ verbositySigns := by
  cases words <;> simp [isVerbose, verbositySigns]

variable {σ : Type}

theorem run_cons_sign (host : Host) (processes : Processes σ) {sign : String}
    (hsign : sign ∈ verbositySigns) (words : List String) (s : σ) :
    run host processes (sign :: words) s = (runWords host processes words s, true) := by
  have hverbose : isVerbose (sign :: words) = true := isVerbose_iff.mpr ⟨sign, rfl, hsign⟩
  rw [run, if_pos hverbose]
  rfl

theorem run_of_no_sign (host : Host) (processes : Processes σ) {words : List String}
    (h : ∀ word ∈ words.head?, word ∉ verbositySigns) (s : σ) :
    run host processes words s = (runWords host processes words s, false) := by
  have hquiet : ¬ isVerbose words = true := by
    rw [isVerbose_iff]
    rintro ⟨word, hword, hsign⟩
    exact h word hword hsign
  rw [run, if_neg hquiet]

/-- A sign of verbosity changes nothing but what is shown of the log: the run starts the same
processes, prints the same, and ends in the same way. -/
theorem run_alike_but_log (host : Host) (processes : Processes σ) {sign : String}
    (hsign : sign ∈ verbositySigns) {words : List String}
    (hwords : ∀ word ∈ words.head?, word ∉ verbositySigns) (s : σ) :
    let loud := run host processes (sign :: words) s
    let quiet := run host processes words s
    loud.1.trace.outText = quiet.1.trace.outText ∧
      loud.1.trace.spawns = quiet.1.trace.spawns ∧ loud.1.state = quiet.1.state ∧
      loud.1.value = quiet.1.value ∧
      ∃ loudTexts quietTexts, loud.1.trace.errText loud.2 = Trace.lineText loudTexts ∧
        quiet.1.trace.errText quiet.2 = Trace.lineText quietTexts ∧
        AlikeButLog loudTexts quietTexts := by
  intro loud quiet
  have hloud : loud = (runWords host processes words s, true) :=
    run_cons_sign host processes hsign words s
  have hquiet : quiet = (runWords host processes words s, false) :=
    run_of_no_sign host processes hwords s
  rw [hloud, hquiet]
  exact ⟨rfl, rfl, rfl, rfl, _, _, rfl, rfl, alikeButLog_shown _⟩

/-- A build of a project without settings, of which the second process fails. -/
theorem run_alike_but_log_build :
    let host := { Host.empty with environment := .ofList [("HOME", "/home/dev")] }
    let processes : Processes Int := ⟨fun n _ => (.exited (2 * n), n + 1), fun _ _ => .directory⟩
    let loud := run host processes ["--verbose", "ios", "build"] 0
    let quiet := run host processes ["ios", "build"] 0
    "--verbose" ∈ verbositySigns ∧
      (∀ word ∈ ["ios", "build"].head?, word ∉ verbositySigns) ∧
      loud.1.trace.outText = quiet.1.trace.outText ∧
      loud.1.trace.spawns = quiet.1.trace.spawns ∧ loud.1.state = quiet.1.state ∧
      loud.1.value = quiet.1.value ∧
      ∃ loudTexts quietTexts, loud.1.trace.errText loud.2 = Trace.lineText loudTexts ∧
        quiet.1.trace.errText quiet.2 = Trace.lineText quietTexts ∧
        AlikeButLog loudTexts quietTexts := by
  intro host processes loud quiet
  have hsign : "--verbose" ∈ verbositySigns := by decide
  have hwords : ∀ word ∈ ["ios", "build"].head?, word ∉ verbositySigns := by decide
  exact ⟨hsign, hwords, run_alike_but_log host processes hsign hwords 0⟩

end CommandLine

end FrameworkForge
