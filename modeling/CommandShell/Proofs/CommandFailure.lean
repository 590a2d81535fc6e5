import CommandShell.LineExecution
import Mathlib.Tactic.Common

namespace CommandShell

/-!
# CommandFailure — what commands report when they fail

A built-in command reports a failed request to the system, whatever contexts it adds. A program
that is run as a command is refused, or cannot be waited for. So what a command reports is never
taken for a failure of the line that calls it:

* `Builtin.run_error` — the reports of built-in commands;
* `ProgramCommand.run_error` — the reports of programs;
* `Failure.IsOfLine`, `Shell.invoke_error` — no command reports a failure of its line.
-/

/-- Whether a failure is one of the line itself, found before its command starts: an operator
    without a file, or a file that cannot be opened. -/
def Failure.IsOfLine : Failure → Prop
  | .missingTarget _ => True
  | .redirectInput _ _ => True
  | .redirectOutput _ _ => True
  | _ => False

/-! ### Reports of built-in commands -/

/-- Whether a report starts from a failed request to the system. -/
def CommandError.IsIo (e : CommandError) : Prop := ∃ error, e.cause = .io error

theorem CommandError.isIo_ofIo (error : IoError) : (CommandError.ofIo error).IsIo :=
  ⟨error, rfl⟩

/-- No context changes what a report starts from. -/
theorem CommandError.IsIo.within {e : CommandError} (h : e.IsIo) (context : String) :
    (e.within context).IsIo := h

/-- What is reported after a request failed for a reason of the system. -/
theorem isIo_of_mapError {α : Type} {attempt : Except Errno α} {e : CommandError}
    (h : (attempt.mapError fun reason => CommandError.ofIo (.os reason)) = .error e) : e.IsIo := by
  cases attempt with
  | ok a => cases h
  | error reason =>
    cases h
    exact CommandError.isIo_ofIo _

namespace Streams

theorem write_error {io : Streams} {sh : Shell} {bytes : Bytes} {e : CommandError}
    (h : (io.write sh bytes).1 = .error e) : e.IsIo :=
  isIo_of_mapError h

theorem skipLine_error {io : Streams} {sh : Shell} {e : CommandError}
    (h : (io.skipLine sh).1 = .error e) : e.IsIo :=
  isIo_of_mapError h

theorem flush_error {io : Streams} {sh : Shell} {e : CommandError}
    (h : io.flush sh = .error e) : e.IsIo :=
  isIo_of_mapError h

end Streams

namespace Builtin

theorem done_error {attempt : Except CommandError Unit × Streams × Shell} {e : CommandError}
    (h : (done attempt).result = .error e) : attempt.1 = .error e := by
  rcases attempt with ⟨_ | ⟨⟩, rest⟩
  · cases h
    rfl
  · cases h

theorem goTo_error {sh : Shell} {target : String} {e : CommandError}
    (h : goTo sh target = .error e) : e.IsIo := by
  unfold goTo at h
  simp only at h
  split at h
  · cases h
    exact (CommandError.isIo_ofIo _).within _
  · split at h
    · cases h
      exact (CommandError.isIo_ofIo _).within _
    · cases h

theorem changeDirectory_error {operand : Option String} {io : Streams} {sh : Shell}
    {e : CommandError} (h : (changeDirectory operand io sh).result = .error e) : e.IsIo := by
  unfold changeDirectory at h
  split at h
  · exact Streams.write_error (done_error h)
  · split at h
    · rename_i hgo
      cases h
      exact goTo_error hgo
    · cases h

theorem listDirectory_error {operand : Option String} {io : Streams} {sh : Shell}
    {e : CommandError} (h : (listDirectory operand io sh).result = .error e) : e.IsIo := by
  unfold listDirectory at h
  simp only at h
  split at h
  · cases h
    exact (CommandError.isIo_ofIo _).within _
  · exact Streams.write_error (done_error h)

theorem awaitLine_error {io : Streams} {sh : Shell} {e : CommandError}
    (h : (awaitLine io sh).result = .error e) : e.IsIo := by
  unfold awaitLine at h
  split at h
  · rename_i hwrite
    cases h
    exact Streams.write_error (congrArg Prod.fst hwrite)
  · split at h
    · rename_i hflush
      cases h
      exact Streams.flush_error hflush
    · exact Streams.skipLine_error (done_error h)

theorem showManual_error {io : Streams} {sh : Shell} {e : CommandError}
    (h : (showManual io sh).result = .error e) : e.IsIo := by
  unfold showManual at h
  simp only at h
  split at h
  · rename_i hflush
    cases h
    exact Streams.flush_error hflush
  · split at h
    · cases h
      exact (CommandError.isIo_ofIo _).within _
    · split at h
      · cases h
        exact (CommandError.isIo_ofIo _).within _
      · cases h

/-- A built-in command reports failed requests only. -/
theorem perform_error {b : Builtin} {operands : List String} {io : Streams} {sh : Shell}
    {e : CommandError} (h : (b.perform operands io sh).result = .error e) : e.IsIo := by
  cases b with
  | cd => exact changeDirectory_error h
  | dir => exact listDirectory_error h
  | help => exact showManual_error h
  | pause => exact awaitLine_error h
  | quit => cases h
  | clr | environ | echo | jobs => exact Streams.write_error (done_error h)

theorem settle_error {o : Outcome CommandError} {e : CommandError}
    (ho : ∀ e', o.result = .error e' → e'.IsIo) (h : (settle o).result = .error e) : e.IsIo := by
  unfold settle at h
  split at h
  · exact ho e h
  · rcases hflush : o.streams.flush o.shell with e' | ⟨⟩
    · rw [hflush] at h
      cases h
      exact Streams.flush_error hflush
    · rw [hflush] at h
      cases h

/-- **Built-in commands** report failed requests to the system. -/
theorem run_error {b : Builtin} {arguments : List String} {io : Streams} {sh : Shell}
    {e : CommandError} (h : (b.run arguments io sh).result = .error e) : e.IsIo := by
  unfold run at h
  split at h
  · simp only at h
    split_ifs at h
    · exact perform_error h
    · exact settle_error (fun _ => perform_error) h
  · exact Streams.write_error (done_error h)
  · cases h

end Builtin

/-! ### Reports of programs -/

namespace ProgramCommand

/-- **Programs** are not found, refused, or lost; else the report is a failed request. -/
theorem run_error {c : ProgramCommand} {io : Streams} {sh : Shell} {e : CommandError}
    (h : (c.run io sh).result = .error e) :
    e.IsIo ∨
      ∃ cause, e = .ofFailure (.launch c.name cause) ∨ e = .ofFailure (.spawn c.name cause) := by
  unfold run at h
  simp only at h
  split at h
  · cases h
    exact .inr ⟨_, .inl rfl⟩
  · split at h
    · rename_i hflush
      cases h
      exact .inl (Streams.flush_error hflush)
    · split at h
      · rename_i cause _
        cases h
        refine .inr ⟨cause, ?_⟩
        unfold refusal
        split_ifs
        · exact .inl rfl
        · exact .inr rfl
      · split_ifs at h
        split at h
        · cases h
          exact .inl (CommandError.isIo_ofIo _)
        · cases h

end ProgramCommand

namespace Shell

/-- **Commands** never report a failure of the line that calls them. -/
theorem invoke_error {sh : Shell} {name : String} {arguments : List String} {background : Bool}
    {io : Streams} {e : CommandError}
    (h : (sh.invoke name arguments background io).result = .error e) :
    ¬ e.classify.IsOfLine := by
  have hio : ∀ {e : CommandError}, e.IsIo → ¬ e.classify.IsOfLine := by
    rintro ⟨cause, contexts⟩ ⟨error, hcause⟩
    cases hcause
    exact id
  unfold invoke at h
  split at h
  · exact hio (Builtin.run_error h)
  · rcases ProgramCommand.run_error h with hcause | ⟨cause, rfl | rfl⟩
    · exact hio hcause
    · exact id
    · exact id

end Shell

end CommandShell
