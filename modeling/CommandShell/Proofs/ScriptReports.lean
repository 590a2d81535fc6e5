import CommandShell.Proofs.ErrorOutput
import CommandShell.Proofs.WholeRuns

namespace CommandShell

/-!
# ScriptReports — what running a script adds to standard error output

Of each line of a script that is executed, one text is reported or none, and a text that is reported
is on one line. The reports come in the order of the lines. A failure that ends the script is not
among them: the program writes it after all of them.

* `Shell.Reporting` — the reports of lines that are executed one after the other;
* `Shell.afterLine_errors` — what one line adds;
* `Shell.Reporting.errors_eq` — what all lines add where their children add nothing;
* `Shell.VisitsPlainly`, `Shell.Reporting.oneLine` — reports on one line;
* `Shell.Reported` — a script with its reports; `Shell.runScript_reports` — every run is one.
-/

/-- Texts that are written one after the other, each with a newline after it. -/
def Capture.putLines (c : Capture) (texts : List String) : Capture :=
  texts.foldl (fun c text => (c.put (Bytes.ofString (text ++ "\n"))).2) c

namespace Capture

variable {c : Capture} {text : String} {texts : List String}

@[simp] theorem putLines_nil (c : Capture) : c.putLines [] = c := rfl

@[simp] theorem putLines_cons (c : Capture) (text : String) (texts : List String) :
    c.putLines (text :: texts) = (c.put (Bytes.ofString (text ++ "\n"))).2.putLines texts := rfl

/-- With room for everything, all texts are there, in their order. -/
theorem putLines_of_room (h : c.room = none) (texts : List String) :
    c.putLines texts = c.add (texts.flatMap fun text => Bytes.ofString (text ++ "\n")) := by
  induction texts generalizing c with
  | nil => simp
  | cons text texts ih =>
    have hroom : (c.add (Bytes.ofString (text ++ "\n"))).room = none := h
    rw [putLines_cons, put_of_room h, ih hroom, add_add, List.flatMap_cons]

end Capture

namespace Shell

variable {sh : Shell} {line : Bytes} {lines rest executed : List Bytes} {text : String}
  {texts : List String} {left : Capture} {failure : Failure}

/-! ### One line -/

/-- What is reported of a line of a script. -/
def LineReports (sh : Shell) (line : Bytes) (text : String) : Prop :=
  sh.reap.1.Reports line.toStringLossy text

/-- What the child of a line of a script leaves on the standard error output. -/
def LineLeaves (sh : Shell) (line : Bytes) (left : Capture) : Prop :=
  sh.reap.1.Leaves line.toStringLossy {} left

/-- **A line** adds its report, if there is one, to what its child leaves. -/
theorem afterLine_errors (h : sh.LineLeaves line left) :
    (∀ text, sh.LineReports line text →
      (sh.afterLine line).errors = (left.put (Bytes.ofString (text ++ "\n"))).2) ∧
    ((∀ text, ¬ sh.LineReports line text) → (sh.afterLine line).errors = left) := by
  have hsettled : (settle (sh.reap.1.execute line.toStringLossy {})).2 = sh.afterLine line :=
    sh.runLine_snd line
  have hline := settle_errors h
  rwa [hsettled] at hline

/-- How the manual is shown does not change in a session. -/
theorem lasting_help (settings : HelpSettings) :
    Lasting fun sh => sh.session.help = settings where
  executes := by
    rintro sh line io rfl
    rcases execute_effect sh line io with hmoves | ⟨files, -, hafter⟩ | ⟨-, -, hkeeps⟩
    · obtain ⟨path, hsession⟩ := hmoves.session_eq
      rw [hsession]
    · rw [hafter]
    · exact hkeeps.help
  reaps h := h
  elapses _ _ _ h := h

theorem afterLines_help (sh : Shell) (lines : List Bytes) :
    (sh.afterLines lines).session.help = sh.session.help :=
  (lasting_help sh.session.help).afterLines rfl lines

theorem afterLine_help (sh : Shell) (line : Bytes) :
    (sh.afterLine line).session.help = sh.session.help := afterLines_help sh [line]

/-! ### Lines one after the other -/

/-- What is reported while lines are executed, in the order in which it is. -/
inductive Reporting : Shell → List Bytes → List String → Prop
  /-- Without lines nothing is. -/
  | nil {sh : Shell} : Reporting sh [] []
  /-- A text is reported of the first line. -/
  | report {sh : Shell} {line : Bytes} {rest : List Bytes} {text : String}
      {texts : List String} : sh.LineReports line text → Reporting (sh.afterLine line) rest texts →
      Reporting sh (line :: rest) (text :: texts)
  /-- Nothing is reported of it. -/
  | silent {sh : Shell} {line : Bytes} {rest : List Bytes} {texts : List String} :
      (∀ text, ¬ sh.LineReports line text) → Reporting (sh.afterLine line) rest texts →
      Reporting sh (line :: rest) texts

theorem exists_reporting (sh : Shell) (lines : List Bytes) : ∃ texts, sh.Reporting lines texts := by
  induction lines generalizing sh with
  | nil => exact ⟨[], .nil⟩
  | cons line rest ih =>
    obtain ⟨texts, hrest⟩ := ih (sh.afterLine line)
    by_cases hreports : ∃ text, sh.LineReports line text
    · obtain ⟨text, hreports⟩ := hreports
      exact ⟨text :: texts, .report hreports hrest⟩
    · exact ⟨texts, .silent (fun text htext => hreports ⟨text, htext⟩) hrest⟩

/-- No line has a child that adds anything to the standard error output. -/
def ChildrenQuiet (sh : Shell) (lines : List Bytes) : Prop :=
  ∀ before line after, lines = before ++ line :: after →
    (sh.afterLines before).LineLeaves line (sh.afterLines before).errors

theorem ChildrenQuiet.head (h : sh.ChildrenQuiet (line :: rest)) :
    sh.LineLeaves line sh.errors :=
  h [] line rest rfl

theorem ChildrenQuiet.tail (h : sh.ChildrenQuiet (line :: rest)) :
    (sh.afterLine line).ChildrenQuiet rest := fun before line' after hsplit =>
  h (line :: before) line' after (by rw [hsplit, List.cons_append])

namespace Reporting

/-- The reports are determined by the lines. -/
theorem unique {texts' : List String} (h : sh.Reporting lines texts)
    (h' : sh.Reporting lines texts') :
    texts = texts' := by
  induction h generalizing texts' with
  | nil => cases h'; rfl
  | report hreports _ ih =>
    cases h' with
    | report hreports' hrest' => rw [hreports.unique hreports', ih hrest']
    | silent hnone' => exact absurd hreports (hnone' _)
  | silent hnone _ ih =>
    cases h' with
    | report hreports' => exact absurd hreports' (hnone _)
    | silent _ hrest' => exact ih hrest'

/-- **All lines** add their reports in their order, where no child adds anything. -/
theorem errors_eq (h : sh.Reporting lines texts) (hquiet : sh.ChildrenQuiet lines) :
    (sh.afterLines lines).errors = sh.errors.putLines texts := by
  induction h with
  | nil => rfl
  | report hreports _ ih =>
    obtain ⟨hadds, -⟩ := afterLine_errors hquiet.head
    rw [afterLines_cons, ih hquiet.tail, hadds _ hreports, Capture.putLines_cons]
  | silent hnone _ ih =>
    obtain ⟨-, hadds⟩ := afterLine_errors hquiet.head
    rw [afterLines_cons, ih hquiet.tail, hadds hnone]

end Reporting

/-- Where one of the lines goes to a directory, the path of that has no newline. -/
def VisitsPlainly (sh : Shell) (lines : List Bytes) : Prop :=
  ∀ before line after, lines = before ++ line :: after →
    (sh.afterLines before).reap.1.GoesPlainly line.toStringLossy

theorem VisitsPlainly.head (h : sh.VisitsPlainly (line :: rest)) :
    sh.reap.1.GoesPlainly line.toStringLossy :=
  h [] line rest rfl

theorem VisitsPlainly.tail (h : sh.VisitsPlainly (line :: rest)) :
    (sh.afterLine line).VisitsPlainly rest := fun before line' after hsplit =>
  h (line :: before) line' after (by rw [hsplit, List.cons_append])

/-- **Reports** are on one line each. -/
theorem Reporting.oneLine (h : sh.Reporting lines texts) (hpager : OneLine sh.session.help.pager)
    (hplain : sh.VisitsPlainly lines) : ∀ text ∈ texts, OneLine text := by
  induction h with
  | nil => simp
  | report hreports _ ih =>
    have hrest := ih (by rwa [afterLine_help]) hplain.tail
    exact List.forall_mem_cons.2 ⟨hreports.oneLine hpager hplain.head, hrest⟩
  | silent _ _ ih => exact ih (by rwa [afterLine_help]) hplain.tail

/-! ### Scripts -/

/-- A script ends as its lines do, or else with the failure that stands after them. -/
theorem runScript_cases (sh : Shell) (script : Supply) :
    (∀ failure, (sh.runLines (linesOf script).1).1 = some (.error failure) →
        (sh.runScript script).1 = .error failure) ∧
      ∀ failure, (sh.runScript script).1 = .error failure →
        (sh.runLines (linesOf script).1).1 = some (.error failure) ∨
          (linesOf script).2 = some failure := by
  unfold runScript
  dsimp only
  rcases sh.runLines (linesOf script).1 with ⟨_ | verdict, after⟩
  · rcases htrouble : (linesOf script).2 with _ | trouble
    · simp
    · refine ⟨fun failure hnone => (by cases hnone), fun failure hfailure => .inr ?_⟩
      exact congrArg some (Except.error.inj hfailure)
  · exact ⟨fun failure hverdict => Option.some.inj hverdict,
      fun failure hfailure => .inl (congrArg some hfailure)⟩

/-- The failure of a reader is said on one line. -/
theorem oneLine_of_linesOf {script : Supply} (h : (linesOf script).2 = some failure) :
    OneLine failure.message := by
  unfold linesOf at h
  split at h
  · cases h
  · rename_i reason _
    cases h
    exact .append (.ofList (by decide)) (IoError.isPlain_os reason).oneLine

/-- The failure of the line that ends a script is said on one line. -/
theorem FailsWith.oneLine (h : sh.FailsWith executed failure)
    (hpager : OneLine sh.session.help.pager) (hplain : sh.VisitsPlainly executed) :
    OneLine failure.message := by
  obtain ⟨-, before, line, rfl, hresult⟩ := h
  have hhelp : OneLine (sh.afterLines before).reap.1.session.help.pager := by
    rw [← afterLines_help sh before] at hpager
    exact hpager
  exact oneLine_of_execute_error hresult hhelp (hplain before line [] rfl)

/-- A script with what is reported of its lines. -/
structure Reported (sh : Shell) (script : Supply) (executed : List Bytes) (texts : List String) :
    Prop where
  /-- The lines up to the first that ends the session are executed, and no other. -/
  executes : sh.Executes (linesOf script).1 executed
  /-- They leave the shell that the script leaves. -/
  leaves : (sh.runScript script).2 = sh.afterLines executed
  /-- The texts are reported of them, in their order. -/
  reporting : sh.Reporting executed texts
  /-- Each is written as one line. -/
  one_line : ∀ text ∈ texts, (Bytes.ofString (text ++ "\n")).IsLine
  /-- A line adds its report to what its child leaves. Without a report it adds nothing. -/
  adds : ∀ before line after, executed = before ++ line :: after →
    (∃ left, (sh.afterLines before).LineLeaves line left) ∧
    ∀ left, (sh.afterLines before).LineLeaves line left →
      (∀ text, (sh.afterLines before).LineReports line text →
        (sh.afterLines (before ++ [line])).errors
          = (left.put (Bytes.ofString (text ++ "\n"))).2) ∧
      ((∀ text, ¬ (sh.afterLines before).LineReports line text) →
        (sh.afterLines (before ++ [line])).errors = left)
  /-- Where no child adds anything, the reports are all that is added. -/
  adds_all : sh.ChildrenQuiet executed →
    (sh.runScript script).2.errors = sh.errors.putLines texts ∧
      (sh.errors.room = none → (sh.runScript script).2.errors
        = sh.errors.add (texts.flatMap fun text => Bytes.ofString (text ++ "\n")))
  /-- A failure of the last line that is fatal ends the script. -/
  fails : ∀ failure, sh.FailsWith executed failure → (sh.runScript script).1 = .error failure
  /-- A failure that ends the script is none of them: the program writes it after them, as one
      further line. -/
  failure_last : ∀ failure, (sh.runScript script).1 = .error failure →
    (Bytes.ofString (failure.message ++ "\n")).IsLine ∧
      (Invocation.finish (sh.runScript script)).2.errors
        = ((sh.runScript script).2.errors.put (Bytes.ofString (failure.message ++ "\n"))).2
  /-- Where the script ends well, it writes nothing more. -/
  success_last : (sh.runScript script).1 = .ok () →
    (Invocation.finish (sh.runScript script)).2 = (sh.runScript script).2

/-- **Every script** has its reports, if the pager of the settings and the directories that its
    lines go to have no newline in their names. -/
theorem exists_reported {script : Supply} (hpager : OneLine sh.session.help.pager)
    (hplain : ∀ executed, sh.Executes (linesOf script).1 executed → sh.VisitsPlainly executed) :
    ∃ executed texts, sh.Reported script executed texts := by
  obtain ⟨executed, hexec, hafter, hverdict⟩ := sh.runLines_executes (linesOf script).1
  obtain ⟨texts, htold⟩ := sh.exists_reporting executed
  obtain ⟨hfatal, hfailure⟩ := sh.runScript_cases script
  have hvisits := hplain executed hexec
  have hleaves : (sh.runScript script).2 = sh.afterLines executed :=
    (sh.runScript_snd script).trans hafter
  refine ⟨executed, texts, hexec, hleaves, htold, ?_, ?_, ?_, ?_, ?_, ?_⟩
  · exact fun text htext => (htold.oneLine hpager hvisits text htext).isLine
  · intro before line after hsplit
    have hone : sh.afterLines (before ++ [line]) = (sh.afterLines before).afterLine line :=
      List.foldl_concat ..
    rw [hone]
    exact ⟨exists_leaves _ _ _, fun left => afterLine_errors⟩
  · intro hquiet
    have hall : (sh.runScript script).2.errors = sh.errors.putLines texts := by
      rw [hleaves, htold.errors_eq hquiet]
    exact ⟨hall, fun hroom => hall.trans (Capture.putLines_of_room hroom texts)⟩
  · exact fun failure hfails => hfatal failure ((hverdict failure).2 hfails)
  · intro failure hresult
    have hmessage : OneLine failure.message := by
      rcases hfailure failure hresult with hlines | hreader
      · exact ((hverdict failure).1 hlines).oneLine hpager hvisits
      · exact oneLine_of_linesOf hreader
    refine ⟨hmessage.isLine, ?_⟩
    rcases hrun : sh.runScript script with ⟨result, after⟩
    rw [hrun] at hresult
    subst hresult
    rfl
  · intro hresult
    rcases hrun : sh.runScript script with ⟨result, after⟩
    rw [hrun] at hresult
    subst hresult
    rfl

end Shell

/-- A program that is given a batch file ends as the script in it does, if the warning about the
    settings could be written, and the file stays as it is while it is read. -/
theorem Invocation.run?_of_readsAs {h : Host} {arguments : List Bytes} {vars : Variables}
    {operand : String} {node : NodeId} {script : Bytes}
    (htext : ∀ argument ∈ arguments, argument.toString?.isSome = true)
    (haccepted : signature.read (arguments.map Bytes.toStringLossy) = .accepted [operand])
    (hopen : (prepare (Shell.begin h vars)).host.world.files.openInput
      (prepare (Shell.begin h vars)).host.directory (Path.ofString operand) = .ok node)
    (hread : (prepare (Shell.begin h vars)).ReadsAs node script)
    (hruns : (prepare (Shell.begin h vars)).aborted = false) :
    run? h arguments vars
      = some (finish ((prepare (Shell.begin h vars)).runScript { pending := script })) := by
  rw [run?_of_accepted htext haccepted, serve_of_not_aborted hruns]
  simp only [serveFile_of_openInput hopen hread, Option.map_some]

namespace Shell

/-- **Standard error output.** While a script is run, exactly one line without a newline in it is
    written there for each executed line that fails recoverably or whose built-in command does not
    take its arguments, in the order of the lines, and nothing for any other one; children may write
    there besides. A failure that ends the script is written by the program, as one further line at
    the end. A program that cannot write the warning about its settings ends before the script. -/
theorem runScript_reports :
    (∀ (sh : Shell) (script : Supply), OneLine sh.session.help.pager →
      (∀ executed, sh.Executes (linesOf script).1 executed → sh.VisitsPlainly executed) →
      ∃ executed texts, sh.Reported script executed texts) ∧
    (∀ (h : Host) (arguments : List Bytes) (vars : Variables) (operand : String) (node : NodeId)
      (script : Bytes) (sh : Shell), sh = Invocation.prepare (Shell.begin h vars) →
      (∀ argument ∈ arguments, argument.toString?.isSome = true) →
      Invocation.signature.read (arguments.map Bytes.toStringLossy) = .accepted [operand] →
      sh.host.world.files.openInput sh.host.directory (Path.ofString operand) = .ok node →
      sh.ReadsAs node script →
      (sh.aborted = false → Invocation.run? h arguments vars
        = some (Invocation.finish (sh.runScript { pending := script }))) ∧
      (sh.aborted = true → Invocation.run? h arguments vars = some (101, sh))) := by
  refine ⟨fun sh script => exists_reported, ?_⟩
  rintro h arguments vars operand node script sh rfl htext haccepted hopen hread
  refine ⟨Invocation.run?_of_readsAs htext haccepted hopen hread, fun haborted => ?_⟩
  rw [Invocation.run?_of_accepted htext haccepted, Invocation.serve_of_aborted haborted,
    Invocation.exit, if_pos haborted]
  rfl

end Shell

namespace Sample

/-- A name without a program, and an argument that `dir` does not take. -/
def troubled : Supply := { pending := Bytes.ofString "nosuch\ndir -x\n" }

/-- No line goes to a directory. -/
theorem visitsPlainly_troubled {executed : List Bytes}
    (h : shell.Executes (Shell.linesOf troubled).1 executed) : shell.VisitsPlainly executed := by
  have hlines : (Shell.linesOf troubled).1 = [Bytes.ofString "nosuch", Bytes.ofString "dir -x"] :=
    by decide +kernel
  have hnosuch : CommandLine.parse (Bytes.ofString "nosuch").toStringLossy
      = .ok (some ⟨["nosuch"], [], false⟩) := by decide +kernel
  have hdir : CommandLine.parse (Bytes.ofString "dir -x").toStringLossy
      = .ok (some ⟨["dir", "-x"], [], false⟩) := by decide +kernel
  rintro before line after rfl c target found ⟨hreads, -⟩ hname
  have hline := h.initial.subset (List.mem_append_right before List.mem_cons_self)
  rw [hlines, List.mem_cons, List.mem_singleton] at hline
  have hcalls : ∀ {name : String} {arguments : List String},
      (Except.ok (some ⟨name :: arguments, [], false⟩) : Except Failure (Option CommandLine))
        = .ok (some ⟨c.name :: c.arguments, c.redirections, c.background⟩) → name = "cd" := by
    intro name arguments heq
    simp only [Except.ok.injEq, Option.some.injEq, CommandLine.mk.injEq, List.cons.injEq] at heq
    exact heq.1.1.trans hname
  rcases hline with rfl | rfl
  · exact absurd (hcalls (hnosuch.symm.trans hreads)) (by decide)
  · exact absurd (hcalls (hdir.symm.trans hreads)) (by decide)

/-- Something is reported of both lines: of the first one its failure, and of the second one what
    is wrong with its argument. -/
theorem troubled_reported : OneLine shell.session.help.pager ∧
    (∃ executed texts, shell.Reported troubled executed texts) ∧
    shell.LineReports (Bytes.ofString "nosuch")
      (Failure.launch "nosuch" .commandNotFound).message ∧
    shell.LineReports (Bytes.ofString "dir -x") (trimBlankEnd (Signature.unrecognized "-x")) := by
  have hpager : OneLine shell.session.help.pager := .ofList (by decide)
  have hfails : (shell.reap.1.execute (Bytes.ofString "nosuch").toStringLossy {}).result
      = .error (.launch "nosuch" .commandNotFound) := by
    have hstarts : shell.reap.1.Starts (Bytes.ofString "nosuch").toStringLossy
        ⟨"nosuch", [], [], false, files, {}⟩ := ⟨by decide +kernel, .nil⟩
    have hname : (Path.ofString "/d").IsPlainIn (Bytes.ofString "nosuch") := by
      constructor <;> decide
    have hregular : files.isRegular .root ((Path.ofString "/d").join (Path.ofString "nosuch"))
        = false := FileSystem.isRegular_vacant isDirectoryAt_here hname (by decide)
    have hmissing : ProgramCommand.program? ⟨"nosuch", [], false⟩ (shell.reap.1.withFiles files)
        = none := by
      show List.find? (fun path => files.isRegular .root path && files.isExecutable .root path)
        [(Path.ofString "/d").join (Path.ofString "nosuch")] = none
      rw [List.find?_cons_of_neg (by simp [hregular]), List.find?_nil]
    rw [Shell.execute_of_starts hstarts, Shell.outcomeOf_foreign (by decide)]
    show ((ProgramCommand.run ⟨"nosuch", [], false⟩ {} (shell.reap.1.withFiles files)).mapError
      CommandError.classify).result = _
    unfold ProgramCommand.run
    rw [hmissing]
    rfl
  have hstarts : shell.reap.1.Starts (Bytes.ofString "dir -x").toStringLossy
      ⟨"dir", ["-x"], [], false, files, {}⟩ := ⟨by decide +kernel, .nil⟩
  exact ⟨hpager, Shell.runScript_reports.1 shell troubled hpager fun _ => visitsPlainly_troubled,
    .failed hfails rfl, .misused ⟨_, .dir, hstarts, by decide, by decide⟩⟩

end Sample

end CommandShell
