import CommandShell.Proofs.SpawnedPrograms

namespace CommandShell

/-!
# CommandSteps — what commands do on their way

A command writes, reads a line, starts a child, waits for it. A relation that holds from before to
after each of these, and from one of them to the next, holds from before to after the command:

* `Shell.Respected` — such a relation between shells;
* `Builtin.perform_respects`, `Builtin.run_respects_of_not_accepted` — it holds along the built-in
  commands that do nothing else to the shell;
* `ProgramCommand.run_respects` — and along programs.
-/

/-- The relation holds from before to after the steps of commands. -/
structure Shell.Respected (R : Shell → Shell → Prop) : Prop where
  /-- Nothing may happen at all. -/
  refl (sh : Shell) : R sh sh
  /-- One step may come after the other. -/
  trans {sh sh' sh'' : Shell} : R sh sh' → R sh' sh'' → R sh sh''
  /-- Bytes are written. -/
  write (io : Streams) (sh : Shell) (bytes : Bytes) : R sh (io.write sh bytes).2.2
  /-- A line is read. -/
  skipLine (io : Streams) (sh : Shell) : R sh (io.skipLine sh).2.2
  /-- A child is started. -/
  spawn {sh : Shell} {request : Launch} {pid : Nat} {started : Host} :
    sh.host.spawn request = .ok (pid, started) → R sh { sh with host := started }
  /-- A child is waited for. -/
  wait {sh : Shell} {pid : Nat} {status : Status} {host : Host} :
    sh.host.wait pid = .ok (status, host) → R sh { sh with host }

variable {R : Shell → Shell → Prop}

namespace Builtin

/-! ### Built-in commands -/

theorem listDirectory_respects (hR : Shell.Respected R) (operand : Option String) (io : Streams)
    (sh : Shell) : R sh (listDirectory operand io sh).shell := by
  unfold listDirectory
  dsimp only
  split
  · exact hR.refl sh
  · exact hR.write io sh _

theorem awaitLine_respects (hR : Shell.Respected R) (io : Streams) (sh : Shell) :
    R sh (awaitLine io sh).shell := by
  have hwrote := hR.write io sh (Bytes.ofString pauseMessage)
  unfold awaitLine
  rcases hwrite : io.write sh (Bytes.ofString pauseMessage) with ⟨_ | ⟨⟩, io', sh'⟩
  · rw [hwrite] at hwrote
    exact hwrote
  · rw [hwrite] at hwrote
    dsimp only
    -- A line is read only if what was written before could be passed on.
    split
    · exact hwrote
    · exact hR.trans hwrote (hR.skipLine io' sh')

theorem showManual_respects (hR : Shell.Respected R) (io : Streams) (sh : Shell) :
    R sh (showManual io sh).shell := by
  unfold showManual
  dsimp only
  split
  · exact hR.refl sh
  · split
    · exact hR.refl sh
    · rename_i hspawn
      -- If the pager cannot be waited for, the shell is the one from before it was started.
      split
      · exact hR.refl sh
      · rename_i hwait
        exact hR.trans (hR.spawn hspawn) (hR.wait hwait)

/-- **Built-in commands** take these steps only, but for those that change the session. -/
theorem perform_respects (hR : Shell.Respected R) {b : Builtin}
    (hcalm : b ≠ .cd ∧ b ≠ .quit ∧ b ≠ .jobs) (operands : List String) (io : Streams)
    (sh : Shell) : R sh (b.perform operands io sh).shell := by
  obtain ⟨hcd, hquit, hjobs⟩ := hcalm
  cases b with
  | cd => exact absurd rfl hcd
  | quit => exact absurd rfl hquit
  | jobs => exact absurd rfl hjobs
  | dir => exact listDirectory_respects hR operands.head? io sh
  | help => exact showManual_respects hR io sh
  | pause => exact awaitLine_respects hR io sh
  | clr | environ | echo => exact hR.write io sh _

/-- So does every one of them that is not performed, and then the shell may complain. -/
theorem run_respects_of_not_accepted (hR : Shell.Respected R) {b : Builtin}
    {arguments : List String} (h : ∀ operands, b.read arguments ≠ .accepted operands)
    (io : Streams) (sh : Shell) (hcomplain : ∀ text, R sh (sh.complain text)) :
    R sh (b.run arguments io sh).shell := by
  unfold run
  split
  · rename_i hread
    exact absurd hread (h _)
  · exact hR.write io sh _
  · exact hcomplain _

end Builtin

/-! ### Programs -/

/-- **Programs** take these steps only, and one more if they become jobs. -/
theorem ProgramCommand.run_respects (hR : Shell.Respected R) {c : ProgramCommand}
    (hrecord : c.background = true → ∀ pid sh, R sh (c.record pid sh)) (io : Streams)
    (sh : Shell) : R sh (c.run io sh).shell := by
  have hcourse := c.run_course io sh
  generalize c.run io sh = o at hcourse
  cases hcourse with
  | missing | stuck | refused => exact hR.refl sh
  | recorded _ hspawn hbackground =>
    exact hR.trans (hR.spawn hspawn) (hrecord hbackground _ _)
  | awaited _ hspawn _ hwait =>
    rcases hwait with ⟨status, hwait, -⟩ | ⟨cause, -, rfl, -⟩
    · exact hR.trans (hR.spawn hspawn) (hR.wait hwait)
    · exact hR.spawn hspawn

end CommandShell
