import CommandShell.Proofs.DialogueRun
import CommandShell.Proofs.RefusedPrograms

namespace CommandShell

/-!
# ReportContexts — what contexts do to a report

A command that fails says what it was doing, and whoever called it may say so too: each puts one
more context around the report. What the report stands for is a matter of its cause alone, and the
contexts are only told where the cause is not a failure already:

* `CommandError.wrapped` — a report with contexts added one after the other;
  `CommandError.exists_wrapped` says that every report is one;
* `CommandError.classify_of_failure`, `CommandError.classify_of_plain` — what a report stands for;
* `CommandError.isFatal_classify_iff` — which reports end the session;
* `CommandError.classify_wrapped` — the laws of contexts, and what they mean for lines.
-/

/-- The text of a cause. -/
def Cause.text : Cause → String
  | .failure known => known.message
  | .io error => error.message
  | .message text => text

/-- Whether a cause is no failure that is already known as such. -/
def Cause.IsPlain (cause : Cause) : Prop := ∀ failure, cause ≠ .failure failure

namespace CommandError

variable {e : CommandError} {failure : Failure}

/-- The report with further contexts around it, added one after the other. -/
def wrapped (e : CommandError) (contexts : List String) : CommandError := contexts.foldl within e

/-- The cause stays, and the context that was added last is the outermost. -/
theorem wrapped_eq (e : CommandError) (contexts : List String) :
    e.wrapped contexts = ⟨e.cause, contexts.reverse ++ e.contexts⟩ := by
  induction contexts generalizing e with
  | nil => rfl
  | cons context rest ih =>
    have hstep : e.wrapped (context :: rest) = (e.within context).wrapped rest := rfl
    rw [hstep, ih, List.reverse_cons, List.append_assoc]
    rfl

/-- Every report is a cause with contexts around it. -/
theorem exists_wrapped (e : CommandError) :
    ∃ contexts, e = (⟨e.cause, []⟩ : CommandError).wrapped contexts := by
  refine ⟨e.contexts.reverse, ?_⟩
  rw [wrapped_eq, List.reverse_reverse, List.append_nil]

/-- A report that was made from a failure stands for it, whatever was added. -/
theorem classify_of_failure (h : e.cause = .failure failure) : e.classify = failure := by
  unfold classify
  rw [h]

/-- Any other is a failure of a built-in command, and tells its contexts. -/
theorem classify_of_plain (h : e.cause.IsPlain) :
    e.classify = .builtin ⟨e.contexts, e.cause.text⟩ := by
  obtain ⟨cause, contexts⟩ := e
  cases cause with
  | failure failure => exact absurd rfl (h failure)
  | io error => rfl
  | message text => rfl

/-- **A report ends the session** only if it was made from a failure that does. -/
theorem isFatal_classify_iff :
    e.classify.isFatal = true ↔ ∃ failure, e.cause = .failure failure ∧ failure.isFatal = true := by
  by_cases hplain : e.cause.IsPlain
  · rw [classify_of_plain hplain]
    constructor
    · intro hfatal
      cases hfatal
    · rintro ⟨failure, hcause, -⟩
      exact absurd hcause (hplain failure)
  · obtain ⟨failure, hcause⟩ : ∃ failure, e.cause = .failure failure := by
      by_contra hnone
      exact hplain fun failure hcause => hnone ⟨failure, hcause⟩
    rw [classify_of_failure hcause]
    constructor
    · intro hfatal
      exact ⟨failure, hcause, hfatal⟩
    · rintro ⟨failure', hcause', hfatal⟩
      rw [hcause] at hcause'
      cases hcause'
      exact hfatal

end CommandError

namespace Shell

variable {sh : Shell} {line : String} {c : StartedCommand} {io : Streams} {report : CommandError}

/-- A line fails with what the report of its command stands for. -/
theorem Starts.execute_error (h : sh.Starts line c)
    (hreport : (sh.outcomeOf c io).result = .error report) :
    (sh.execute line io).result = .error report.classify := by
  rw [execute_of_starts h, hreport]
  rfl

/-- A line ends the session exactly if its failure is fatal. -/
theorem settle_eq_error_iff {o : Outcome Failure} {failure : Failure} :
    (settle o).1 = .error failure ↔ o.result = .error failure ∧ failure.isFatal = true := by
  constructor
  · intro h
    have hsettled : settle o = (.error failure, (settle o).2) := Prod.ext h rfl
    exact settle_error hsettled
  · rintro ⟨hresult, hfatal⟩
    unfold settle
    rw [hresult]
    simp only [hfatal, if_true]

end Shell

namespace CommandError

/-- **Contexts.**

* A failure that is handed on in a report, with any number of contexts around it, is classified as
  itself, so that its text and whether it ends the session are what they were. That holds of what a
  report was classified as before, too.
* Any other report, be it of a request to the system or of a message, is classified as the failure of
  a built-in command. It does not end the session, and its text is that of the contexts from the
  outermost on and of the cause, with colons between them.
* There are no other reports: each is a cause with contexts that were added one after the other.
* The failure of a line is what the report of its command is classified as. The line ends the session
  exactly if the report was made from a failure that does, in whatever contexts. -/
theorem classify_wrapped :
    (∀ failure contexts, ((ofFailure failure).wrapped contexts).classify = failure) ∧
    (∀ e contexts, ((ofFailure (classify e)).wrapped contexts).classify = classify e) ∧
    (∀ (cause : Cause) contexts, cause.IsPlain →
      let failure := (wrapped ⟨cause, []⟩ contexts).classify
      failure = .builtin ⟨contexts.reverse, cause.text⟩ ∧ failure.isFatal = false ∧
        failure.message = ": ".intercalate (contexts.reverse ++ [cause.text])) ∧
    (∀ e : CommandError, ∃ cause contexts, e = wrapped ⟨cause, []⟩ contexts) ∧
    (∀ (sh : Shell) line c io report, sh.Starts line c →
      (sh.outcomeOf c io).result = .error report →
      (sh.execute line io).result = .error report.classify ∧
      ∀ failure, (Shell.settle (sh.execute line io)).1 = .error failure ↔
        report.cause = .failure failure ∧ failure.isFatal = true) := by
  have hkept : ∀ failure contexts, ((ofFailure failure).wrapped contexts).classify = failure := by
    intro failure contexts
    apply classify_of_failure
    rw [wrapped_eq]
    rfl
  refine ⟨hkept, fun e contexts => hkept _ contexts, ?_, ?_, ?_⟩
  · intro cause contexts hplain
    have hclass : (wrapped ⟨cause, []⟩ contexts).classify
        = .builtin ⟨contexts.reverse, cause.text⟩ := by
      rw [wrapped_eq, List.append_nil]
      exact classify_of_plain hplain
    dsimp only
    rw [hclass]
    exact ⟨rfl, rfl, rfl⟩
  · intro e
    obtain ⟨contexts, he⟩ := e.exists_wrapped
    exact ⟨e.cause, contexts, he⟩
  · intro sh line c io report hstarts hreport
    have hresult := hstarts.execute_error hreport
    refine ⟨hresult, fun failure => ?_⟩
    rw [Shell.settle_eq_error_iff, hresult]
    constructor
    · rintro ⟨hsame, hfatal⟩
      obtain rfl := Except.error.inj hsame
      obtain ⟨failure, hcause, -⟩ := isFatal_classify_iff.1 hfatal
      rw [classify_of_failure hcause] at hfatal ⊢
      exact ⟨hcause, hfatal⟩
    · rintro ⟨hcause, hfatal⟩
      rw [classify_of_failure hcause]
      exact ⟨rfl, hfatal⟩

end CommandError

namespace Sample

/-- A child that is refused ends the session; a message in two contexts is told with both. -/
theorem unspeakable_settled : shell.Starts "/cat a\x00b" unspeakable ∧
    Cause.IsPlain (.message "no terminal") ∧
    (Shell.settle (shell.execute "/cat a\x00b" {})).1 = .error (.spawn "/cat" .nulInCommand) ∧
    (CommandError.wrapped ⟨.message "no terminal", []⟩ ["clr", "line 3"]).classify.message
      = "line 3: clr: no terminal" := by
  have hstarts := refusesChild_unspeakable.starts
  have hplain : Cause.IsPlain (.message "no terminal") := by
    intro known h
    cases h
  have hreport : (shell.outcomeOf unspeakable {}).result
      = .error (.ofFailure (.spawn "/cat" .nulInCommand)) := by
    obtain ⟨request, hasks, hspawn⟩ := refusesChild_unspeakable.refused
    rw [Shell.outcomeOf_foreign refusesChild_unspeakable.foreign,
      ProgramCommand.run_of_refused hasks hspawn]
    rfl
  obtain ⟨-, -, hmessages, -, hlines⟩ := CommandError.classify_wrapped
  obtain ⟨-, hsettle⟩ := hlines shell _ unspeakable {} _ hstarts hreport
  obtain ⟨-, -, hmessage⟩ := hmessages (.message "no terminal") ["clr", "line 3"] hplain
  exact ⟨hstarts, hplain, (hsettle _).2 ⟨rfl, rfl⟩, hmessage⟩

end Sample

end CommandShell
