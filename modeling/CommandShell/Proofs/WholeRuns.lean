import CommandShell.Invocation
import CommandShell.Proofs.DialogueRun
import CommandShell.Proofs.ScriptRun

namespace CommandShell

/-!
# WholeRuns — what each step of a session keeps, its whole run keeps

A session takes its lines from a script, from a file or from a dialogue. What the shell does itself
between two lines is to drop jobs, to ask and to report:

* `Shell.Lasting` — what lines, dropped jobs and the passing of time keep;
* `Shell.Lasting.afterLines`, `Shell.Lasting.runScript` — so do scripts;
* `Shell.Lasting.runFile` — so do scripts in files, if they come to an end;
* `Shell.Lasting.converse` — so do dialogues;
* `Shell.Lasting.serve` — so does the program, once its session is prepared.
-/

namespace Shell

/-- What is kept by whatever happens in a session. -/
structure Lasting (P : Shell → Prop) : Prop where
  /-- Lines on any streams keep it. -/
  executes : ∀ {sh : Shell} (line : String) (io : Streams), P sh → P (sh.execute line io).shell
  /-- So does dropping the jobs that have ended. -/
  reaps : ∀ {sh : Shell}, P sh → P sh.reap.1
  /-- Other processes go on: the files, the terminal, the children and the time are others. -/
  elapses : ∀ {sh : Shell} (world : World) (children : List Child) (clock : Nat), P sh →
    P { sh with host := { sh.host with world, children, clock } }

namespace Lasting

variable {P : Shell → Prop} {sh : Shell}

/-- The report of a failure is a matter of the terminal. -/
theorem settle (h : Lasting P) {o : Outcome Failure} (ho : P o.shell) : P (Shell.settle o).2 := by
  unfold Shell.settle
  split
  · exact ho
  · split_ifs
    · exact ho
    · exact h.elapses _ _ _ ho

/-! ### Scripts -/

theorem runLine (h : Lasting P) (hsh : P sh) (line : Bytes) : P (sh.runLine line).2 :=
  h.settle (h.executes line.toStringLossy {} (h.reaps hsh))

theorem afterLines (h : Lasting P) (hsh : P sh) (lines : List Bytes) : P (sh.afterLines lines) := by
  induction lines generalizing sh with
  | nil => exact hsh
  | cons line rest ih =>
    rw [afterLines_cons, ← runLine_snd]
    exact ih (h.runLine hsh line)

theorem runLines (h : Lasting P) (hsh : P sh) (lines : List Bytes) : P (sh.runLines lines).2 := by
  -- The lines that are run are executed one after the other.
  obtain ⟨executed, -, hafter, -⟩ := runLines_executes sh lines
  rw [hafter]
  exact h.afterLines hsh executed

/-- **Scripts** keep what lasts, also those whose text cannot be read to its end. -/
theorem runScript (h : Lasting P) (hsh : P sh) (script : Supply) : P (sh.runScript script).2 := by
  have hlines := h.runLines hsh (linesOf script).1
  unfold Shell.runScript
  rcases hrun : sh.runLines (linesOf script).1 with ⟨_ | verdict, next⟩
  · rw [hrun] at hlines
    rcases htrouble : (linesOf script).2 with _ | failure
    · simpa only [hrun, htrouble] using hlines
    · simpa only [hrun, htrouble] using hlines
  · rw [hrun] at hlines
    simpa only [hrun] using hlines

/-- **Scripts in files** are run block by block, and keep it as well if they come to an end. -/
theorem runFile (h : Lasting P) (hsh : P sh) {node : NodeId} {ended : Except Failure Unit × Shell}
    (hrun : sh.runFile node = some ended) : P ended.2 := by
  -- It is kept from each block on, if it is from the next one on.
  refine Shell.runBlocks.partial_correctness (fun sh _ _ ended => P sh → P ended.2) ?_
    sh { node } [] ended hrun hsh
  intro runRest ih sh handle kept ended hblock hsh
  rcases hcontent : sh.host.world.files.content handle.node with reason | content
  · simp only [hcontent, Option.some.injEq] at hblock
    rwa [← hblock]
  · simp only [hcontent] at hblock
    -- Nothing is left; or the last lines are run; or those that the block ends.
    split_ifs at hblock
    · rwa [← Option.some.inj hblock]
    all_goals
      split at hblock
      case h_1 verdict next hlines =>
        obtain rfl := congrArg Prod.snd hlines
        rw [← Option.some.inj hblock]
        exact h.runLines hsh _
      case h_2 next hlines =>
        obtain rfl := congrArg Prod.snd hlines
        exact ih _ _ _ _ hblock (h.runLines hsh _)

/-! ### Dialogues -/

/-- Asking for a line is a matter of the terminal. -/
theorem ask (h : Lasting P) (hsh : P sh) : P sh.ask.2 := by
  have hshown : P sh.offer.2 := by
    unfold offer
    split_ifs
    · exact h.elapses _ _ _ hsh
    · exact hsh
  rcases hoffer : sh.offer with ⟨reason | ⟨⟩, shown⟩
  · rw [hoffer] at hshown
    rwa [ask_of_offer_error hoffer]
  · rw [hoffer] at hshown
    rw [ask_of_offer hoffer]
    exact h.elapses _ _ _ hshown

/-- So is a round of a dialogue, but for its line. -/
theorem round (h : Lasting P) (hsh : P sh) {r : Round} (hears : sh.Hears r) : P r.after.2 := by
  have hasked := h.ask (h.reaps hsh)
  rw [hears.asked] at hasked
  exact h.settle (h.executes r.text {} hasked)

/-- **Dialogues** keep what lasts, whatever is typed. -/
theorem converse (h : Lasting P) (hsh : P sh) : P sh.converse.2 := by
  -- Round by round, and then whatever ends it.
  obtain ⟨rounds, result, after, htalks⟩ := sh.exists_talks
  rw [htalks.converse_eq]
  induction htalks with
  | left => exact hsh
  | finished _ hask =>
    have hasked := h.ask (h.reaps hsh)
    rw [hask] at hasked
    exact h.elapses _ _ _ hasked
  | failed _ hask =>
    have hasked := h.ask (h.reaps hsh)
    rwa [hask] at hasked
  | fatal hears hafter =>
    have hround := h.round hsh hears
    rwa [hafter] at hround
  | round hears hafter _ ih =>
    have hround := h.round hsh hears
    rw [hafter] at hround
    exact ih hround

/-! ### The program -/

/-- **The program** keeps what lasts from the preparation of its session on. -/
theorem serve (h : Lasting P) {batchFile : Option Path} {code : ExitCode} {after : Shell}
    (hsh : P (Invocation.prepare sh))
    (hserve : Invocation.serve sh batchFile = some (code, after)) : P after := by
  -- A failure that ends the session is reported on the terminal.
  have hfinish : ∀ ended : Except Failure Unit × Shell, P ended.2 →
      P (Invocation.finish ended).2 := by
    rintro ⟨failure | ⟨⟩, ended⟩ hended
    · exact h.elapses _ _ _ hended
    · exact hended
  by_cases haborted : (Invocation.prepare sh).aborted = true
  · rw [Invocation.serve_of_aborted haborted] at hserve
    obtain rfl := congrArg Prod.snd (Option.some.inj hserve)
    exact hsh
  rw [Invocation.serve_of_not_aborted (Bool.eq_false_iff.2 haborted)] at hserve
  rcases batchFile with _ | path
  · obtain rfl := congrArg Prod.snd (Option.some.inj hserve)
    exact hfinish _ (h.converse hsh)
  · obtain ⟨ended, hfile, hended⟩ := Option.map_eq_some_iff.1 hserve
    obtain rfl := congrArg Prod.snd hended
    refine hfinish ended ?_
    unfold Invocation.serveFile at hfile
    split at hfile
    · rwa [← Option.some.inj hfile]
    · exact h.runFile hsh hfile

end Lasting

end Shell

end CommandShell
