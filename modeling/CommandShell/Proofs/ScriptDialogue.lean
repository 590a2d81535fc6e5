import CommandShell.Machine
import CommandShell.Proofs.DialogueRun
import CommandShell.Proofs.ScriptRun

namespace CommandShell

/-!
# ScriptDialogue — a text as a script, and as what is typed

The same text can be run as a script, or typed line by line into a dialogue. A script is split at
its newlines, and the dialogue reads up to each newline and drops the ending of the line; but both
execute the same words:

* `Shell.showsPrompt_afterLine` — no line makes the dialogue show a prompt;
* `Shell.LinesIgnoreInput` — no line that is executed has to do with the standard input, which is
  the script's no more than the dialogue's;
* `Shell.afterDialogue` — what a dialogue does once a script would be at its end;
  `Shell.output_afterDialogue` — what it then writes;
* `Shell.talks_of_script` — the rounds of the dialogue are the executed lines of the script;
* `Shell.converse_eq_runScript` — the dialogue and the script as wholes.
-/

namespace Shell

variable {sh : Shell} {s : Supply} {line : Bytes} {lines : List Bytes}

/-! ### One line -/

theorem settle_withInput (o : Outcome Failure) (input : Supply) :
    settle (o.withInput input) = ((settle o).1, (settle o).2.withInput input) := by
  obtain ⟨failure | code, io, sh⟩ := o
  · unfold settle
    simp only [Outcome.withInput]
    split_ifs <;> rfl
  · rfl

/-- No line makes the dialogue show a prompt, or not show it. -/
theorem showsPrompt_afterLine (sh : Shell) (line : Bytes) :
    (sh.afterLine line).showsPrompt = sh.showsPrompt := by
  have hterm : Variables.getText? (sh.afterLine line).session.vars "TERM"
      = Variables.getText? sh.session.vars "TERM" := by
    have hother : Bytes.ofString "TERM" ≠ Bytes.ofString "PWD" := by decide
    have hline := execute_get?_of_ne hother sh.reap.1 line.toStringLossy {}
    rw [afterLine_session]
    exact congrArg (Option.bind · Bytes.toString?) hline
  unfold showsPrompt
  rw [hterm]

/-- A line of a text that is typed is heard as the line of a script with the same words. -/
theorem hears_of_isText (htext : s.IsText) (hfull : s.pending ≠ [])
    (hgoes : sh.stops = false) (hprompt : sh.showsPrompt = false) :
    ∃ line r, Bytes.lines s.pending = line :: Bytes.lines s.takeLine.2.pending ∧
      (sh.withInput s).Hears r ∧ r.shell = sh.reap.1.withInput s.takeLine.2 ∧
      words r.text = words line.toStringLossy := by
  obtain ⟨cs, hcs, -⟩ := htext.plain
  obtain ⟨line, typed, hlines, htyped, hwords⟩ := Bytes.lines_eq_cons hcs hfull
  rcases entryOf_of_isText htext with ⟨hnil, -⟩ | ⟨typed', htyped', hentry⟩
  · exact absurd hnil hfull
  obtain rfl : typed = typed' := Option.some.inj (htyped.symm.trans htyped')
  let text := String.ofList (LineEditor.dropEnding typed)
  refine ⟨line, ⟨Bytes.firstLine s.pending, text, sh.reap.1.withInput s.takeLine.2⟩, ?_,
    ⟨hgoes, ?_, rfl⟩, rfl, ?_⟩
  · rw [hlines, Supply.takeLine_eq htext.ends]
  · have hsilent : ((sh.withInput s).reap.1).showsPrompt = false := hprompt
    rw [ask_of_silent hsilent]
    exact Prod.ext hentry rfl
  · exact (words_dropEnding typed).trans hwords.symm

/-- What comes of a typed line is what comes of the line of a script with the same words. -/
theorem after_of_words {r : Round} {input : Supply} (hshell : r.shell = sh.reap.1.withInput input)
    (hwords : words r.text = words line.toStringLossy)
    (hignores : sh.reap.1.IgnoresInput line.toStringLossy) :
    r.after = ((sh.runLine line).1, (sh.runLine line).2.withInput input) := by
  have houtcome : r.outcome = (sh.lineOutcome line).withInput input := by
    rw [Round.outcome, hshell, execute_congr hwords]
    exact hignores.leavesInput input
  rw [Round.after, houtcome, settle_withInput]
  rfl

/-! ### A whole text -/

/-- No line that is executed has to do with the shell's own standard input. -/
def LinesIgnoreInput (sh : Shell) (lines : List Bytes) : Prop :=
  ∀ executed, sh.Executes lines executed →
    ∀ before line after, executed = before ++ line :: after →
      (sh.afterLines before).reap.1.IgnoresInput line.toStringLossy

/-- A script has come to its end, and not because of a line. -/
def ReachesEnd (ended : Except Failure Unit × Shell) : Prop :=
  ended.1 = .ok () ∧ ended.2.session.exiting = false ∧ ended.2.aborted = false

instance (ended : Except Failure Unit × Shell) : Decidable (ReachesEnd ended) :=
  inferInstanceAs (Decidable (_ ∧ _ ∧ _))

/-- What a dialogue leaves where a script has come to its end: unless that was because of a line,
    jobs are looked after once more, and the end of the input is told. -/
def afterDialogue (ended : Except Failure Unit × Shell) : Shell :=
  if ReachesEnd ended then ended.2.reap.1.print "\nExiting myshell...\n" else ended.2

theorem afterDialogue_of_error (failure : Failure) (sh : Shell) :
    afterDialogue (.error failure, sh) = sh :=
  if_neg fun h => by cases h.1

theorem afterDialogue_of_stops (h : sh.stops = true) (result : Except Failure Unit) :
    afterDialogue (result, sh) = sh := by
  refine if_neg fun ⟨_, hgoes⟩ => ?_
  rw [show sh.stops = false from Bool.or_eq_false_iff.2 hgoes] at h
  cases h

theorem afterDialogue_of_end (h : sh.stops = false) :
    afterDialogue (.ok (), sh) = sh.reap.1.print farewell :=
  if_pos ⟨rfl, Bool.or_eq_false_iff.1 h⟩

/-- The farewell goes to the standard output, and nothing else does. -/
theorem output_afterDialogue (ended : Except Failure Unit × Shell) :
    (afterDialogue ended).host.world.terminal.output =
      if ReachesEnd ended then
        (ended.2.host.world.terminal.output.put (Bytes.ofString "\nExiting myshell...\n")).2
      else ended.2.host.world.terminal.output := by
  unfold afterDialogue
  split_ifs <;> rfl

/-- The first line is executed, whatever it does. -/
theorem LinesIgnoreInput.first {others : List Bytes} (h : sh.LinesIgnoreInput (line :: others)) :
    sh.reap.1.IgnoresInput line.toStringLossy := by
  obtain ⟨executed, hexec, -⟩ := (sh.afterLine line).runLines_executes others
  by_cases hends : (sh.lineOutcome line).EndsSession
  · exact h [line] (executes_of_ends hends others) [] line [] rfl
  · exact h (line :: executed) (executes_cons hends hexec) [] line executed rfl

/-- After a line that does not end the session, the others are executed. -/
theorem LinesIgnoreInput.rest {others : List Bytes}
    (h : sh.LinesIgnoreInput (line :: others)) (hends : ¬ (sh.lineOutcome line).EndsSession) :
    (sh.afterLine line).LinesIgnoreInput others := by
  rintro executed hexec before last after rfl
  exact h _ (executes_cons hends hexec) (line :: before) last after rfl

/-- **Rounds and lines.** The dialogue on a text has a round for each line of the script that is
    executed, with the same words; it comes to the same end. -/
theorem talks_of_script (htext : s.IsText) (hlines : Bytes.lines s.pending = lines)
    (hgoes : sh.stops = false) (hprompt : sh.showsPrompt = false)
    (hignores : sh.LinesIgnoreInput lines) :
    ∃ executed rounds rest, sh.Executes lines executed ∧
      rounds.map (fun r => words r.text) = executed.map (fun line => words line.toStringLossy) ∧
      (sh.withInput s).Talks rounds ((sh.runLines lines).1.getD (.ok ()))
        ((afterDialogue ((sh.runLines lines).1.getD (.ok ()), (sh.runLines lines).2)).withInput
          rest) := by
  -- The lines are those of what is left of the input; the shells differ in that input alone.
  induction lines generalizing sh s with
  | nil =>
    have hnil : s.pending = [] := by
      by_contra hfull
      obtain ⟨line, r, hcons, -⟩ := hears_of_isText htext hfull hgoes hprompt
      rw [hlines] at hcons
      cases hcons
    have hsilent : ((sh.withInput s).reap.1).showsPrompt = false := hprompt
    have hask : (sh.withInput s).reap.1.ask = (.finished, sh.reap.1.withInput s.takeLine.2) := by
      rcases entryOf_of_isText htext with ⟨-, hfinished⟩ | ⟨typed, htyped, hline⟩
      · rw [ask_of_silent hsilent]
        exact Prod.ext hfinished rfl
      · rw [Supply.takeLine_eq htext.ends, Bytes.firstLine_eq_nil_iff.2 hnil] at hline
        cases hline
    refine ⟨[], [], s.takeLine.2, executes_nil sh, rfl, ?_⟩
    rw [runLines, Option.getD_none, afterDialogue_of_end hgoes, ← print_withInput]
    exact .finished hgoes hask
  | cons first others ih =>
    have hfull : s.pending ≠ [] := by
      intro hnil
      rw [hnil] at hlines
      cases hlines
    obtain ⟨line, r, hcons, hears, hshell, hwords⟩ := hears_of_isText htext hfull hgoes hprompt
    obtain ⟨rfl, hothers⟩ := List.cons.inj (hlines.symm.trans hcons)
    have hafter := after_of_words hshell hwords hignores.first
    rcases hrun : sh.runLine first with ⟨failure | ⟨⟩, next⟩
    · -- The line fails for good.
      rw [hrun] at hafter
      have hends : (sh.lineOutcome first).EndsSession := .inl ⟨failure, settle_error hrun⟩
      refine ⟨[first], [r], s.takeLine.2, executes_of_ends hends others, by simp [hwords], ?_⟩
      rw [runLines, hrun]
      simp only [Option.getD_some, afterDialogue_of_error]
      exact .fatal hears hafter
    · rw [hrun] at hafter
      have hnext : sh.afterLine first = next := by rw [← runLine_snd, hrun]
      have hgo : ∀ failure, (sh.lineOutcome first).result = .error failure →
          failure.isFatal = false := by
        intro failure hresult
        by_contra hfatal
        rw [runLine_of_fatal hresult (by simpa using hfatal)] at hrun
        cases hrun
      by_cases hends : (sh.lineOutcome first).EndsSession
      · -- The line leaves, or ends the process.
        have hstops : next.stops = true := hnext ▸ afterLine_stops hgo hends
        refine ⟨[first], [r], s.takeLine.2, executes_of_ends hends others, by simp [hwords], ?_⟩
        rw [runLines, hrun]
        simp only [hstops, if_true, Option.getD_some, afterDialogue_of_stops hstops]
        exact .round hears hafter (.left hstops)
      · -- The dialogue and the script go on from the same shell.
        have hstay : next.stops = false := hnext ▸ afterLine_goesOn hends
        have hsilent : next.showsPrompt = false := by
          rw [← hnext, showsPrompt_afterLine, hprompt]
        obtain ⟨executed, rounds, rest, hexec, hsame, htalks⟩ :=
          ih htext.takeLine hothers.symm hstay hsilent (hnext ▸ hignores.rest hends)
        refine ⟨first :: executed, r :: rounds, rest, executes_cons hends (hnext ▸ hexec), ?_, ?_⟩
        · rw [List.map_cons, List.map_cons, hsame, hwords]
        · rw [runLines, hrun]
          simp only [hstay]
          exact .round hears hafter htalks

/-- **A script and a dialogue.** The lines of a text can be run as a script, or typed into a
    dialogue of the same shell, whose standard input is the text then. If no executed line has to
    do with the shell's own standard input, and no prompt is shown, the same lines are executed,
    word for word and in the same order; both come to the same end, and leave the same shell, but
    for the standard input, and but for this: where the input has come to its end, the dialogue has
    looked after the jobs once more and written its farewell, which the standard output gets after
    all that the script gave it. -/
theorem converse_eq_runScript (htext : s.IsText) (hgoes : sh.session.exiting = false)
    (hruns : sh.aborted = false) (hprompt : sh.showsPrompt = false)
    (hignores : sh.LinesIgnoreInput (Bytes.lines s.pending)) :
    let ended := sh.runScript s
    let talked := (sh.withInput s).converse
    let farewell := Bytes.ofString "\nExiting myshell...\n"
    (∃ executed rounds rest, sh.Executes (Bytes.lines s.pending) executed ∧
      (sh.withInput s).Talks rounds talked.1 talked.2 ∧
      rounds.map (fun r => words r.text) = executed.map (fun line => words line.toStringLossy) ∧
      talked.1 = ended.1 ∧ talked.2 = (afterDialogue ended).withInput rest) ∧
    (talked.2.host.world.terminal.output =
      if ReachesEnd ended then (ended.2.host.world.terminal.output.put farewell).2
      else ended.2.host.world.terminal.output) ∧
    (ended.2.host.world.terminal.output.room = none →
      talked.2.host.world.terminal.output.written =
        ended.2.host.world.terminal.output.written
          ++ if ReachesEnd ended then farewell else []) := by
  intro ended talked farewell
  have hstops : sh.stops = false := Bool.or_eq_false_iff.2 ⟨hgoes, hruns⟩
  obtain ⟨executed, rounds, rest, hexec, hsame, htalks⟩ :=
    talks_of_script htext rfl hstops hprompt hignores
  have hscript : ended = ((sh.runLines (Bytes.lines s.pending)).1.getD (.ok ()),
      (sh.runLines (Bytes.lines s.pending)).2) := by
    obtain ⟨pending, failure⟩ := s
    obtain rfl : failure = none := htext.ends
    exact runScript_eq sh pending
  have hverdict : (sh.runLines (Bytes.lines s.pending)).1.getD (.ok ()) = ended.1 :=
    (congrArg Prod.fst hscript).symm
  rw [← hscript, hverdict] at htalks
  have htalked : talked = (ended.1, (afterDialogue ended).withInput rest) := htalks.converse_eq
  have houtput : talked.2.host.world.terminal.output =
      if ReachesEnd ended then (ended.2.host.world.terminal.output.put farewell).2
      else ended.2.host.world.terminal.output := by
    rw [htalked]
    exact output_afterDialogue ended
  refine ⟨⟨executed, rounds, rest, hexec, ?_, hsame, ?_, ?_⟩, houtput, fun hroom => ?_⟩
  · rw [htalked]
    exact htalks
  · rw [htalked]
  · rw [htalked]
  · rw [houtput]
    split_ifs
    · rw [Capture.put, hroom]
    · rw [List.append_nil]

end Shell

/-! ### A text with all kinds of lines -/

namespace Sample

/-- A shell on a system without files. -/
def bare : Shell := ⟨{ directory := .root }, Machine.host .empty .root⟩

/-- The lines of a text: one with a carriage return, a blank one, one that fails, one that leaves,
    and one that is not executed. -/
def typedLines : List String := ["echo hi\r", "", "echo >", "quit", "echo never"]

/-- The text. Its last line has no newline. -/
def typedText : Supply := { pending := Bytes.ofString ("\n".intercalate typedLines) }

theorem isText_typedText : typedText.IsText :=
  ⟨rfl, ("\n".intercalate typedLines).toList, by decide +kernel, by decide +kernel⟩

theorem lines_typedText :
    (Bytes.lines typedText.pending).map Bytes.toStringLossy = typedLines := by
  decide +kernel

/-- None of the lines has to do with the standard input, whoever executes it. -/
theorem ignoresInput_typedLines {line : String} (h : line ∈ typedLines) (sh : Shell) :
    sh.IgnoresInput line := by
  simp only [typedLines, List.mem_cons, List.not_mem_nil, or_false] at h
  rcases h with rfl | rfl | rfl | rfl | rfl
  · have hread : CommandLine.parse "echo hi\r" = .ok (some ⟨["echo", "hi"], [], false⟩) := by
      decide +kernel
    exact Shell.ignoresInput_of_builtin (b := .echo) hread rfl (by decide) (by decide)
  · have hread : CommandLine.parse "" = .ok none := by decide +kernel
    exact Shell.ignoresInput_of_not_starts (Shell.StartsNothing.blank hread).not_starts
  · have hread : CommandLine.parse "echo >" = .error (.missingTarget ">") := by decide +kernel
    exact Shell.ignoresInput_of_not_starts (Shell.StartsNothing.unreadable hread).not_starts
  · have hread : CommandLine.parse "quit" = .ok (some ⟨["quit"], [], false⟩) := by decide +kernel
    exact Shell.ignoresInput_of_builtin (b := .quit) hread rfl (by decide) (by decide)
  · have hread : CommandLine.parse "echo never" = .ok (some ⟨["echo", "never"], [], false⟩) := by
      decide +kernel
    exact Shell.ignoresInput_of_builtin (b := .echo) hread rfl (by decide) (by decide)

theorem linesIgnoreInput_typedText : bare.LinesIgnoreInput (Bytes.lines typedText.pending) := by
  rintro executed hexec before line after rfl
  have hmem : line ∈ Bytes.lines typedText.pending := hexec.initial.subset (by simp)
  exact ignoresInput_typedLines (lines_typedText ▸ List.mem_map_of_mem hmem) _

/-- The text is run in both ways. -/
theorem typed_or_scripted : typedText.IsText ∧ bare.session.exiting = false ∧
    bare.aborted = false ∧ bare.showsPrompt = false ∧
    bare.LinesIgnoreInput (Bytes.lines typedText.pending) ∧
    ∃ executed rounds rest, bare.Executes (Bytes.lines typedText.pending) executed ∧
      (bare.withInput typedText).Talks rounds (bare.withInput typedText).converse.1
        (bare.withInput typedText).converse.2 ∧
      rounds.map (fun r => words r.text) = executed.map (fun line => words line.toStringLossy) ∧
      (bare.withInput typedText).converse.1 = (bare.runScript typedText).1 ∧
      (bare.withInput typedText).converse.2
        = (Shell.afterDialogue (bare.runScript typedText)).withInput rest :=
  have hprompt : bare.showsPrompt = false := by decide +kernel
  ⟨isText_typedText, rfl, rfl, hprompt, linesIgnoreInput_typedText,
    (Shell.converse_eq_runScript isText_typedText rfl rfl hprompt linesIgnoreInput_typedText).1⟩

end Sample

end CommandShell
