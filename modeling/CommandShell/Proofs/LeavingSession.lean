import CommandShell.Proofs.DialogueRun
import CommandShell.Proofs.LineFrame
import CommandShell.Proofs.ProcessDirectory
import CommandShell.Proofs.RedirectedOutput
import CommandShell.Proofs.WholeRuns

namespace CommandShell

/-!
# LeavingSession — the loops of a session that is to be left

`quit` asks for the session to be left, and no line takes that back. A dialogue looks for it before
it asks for a line, a script only after it has executed one. So within a call of one of the loops no
line is executed after the one that has asked; a later dialogue executes none at all, but a later
script executes its first line:

* `Shell.execute_exiting_iff` — no line takes the wish back;
* `Shell.Talks.of_exiting`, `Shell.Executes.of_exiting` — the loops of such a session;
* `LoopCall`, `Shell.Serves`, `Shell.ServesAll` — calls of the loops, one after the other, and the
  lines that each executes;
* `Shell.servesAll_leaving` — which lines are executed after the one that has asked to leave;
* `Sample.leaving_script` — a script that is begun all the same.
-/

/-- A line, and the shell that executes it. -/
structure ExecutedLine where
  /-- The line. -/
  text : String
  /-- The shell. -/
  shell : Shell

/-- The session is to be left after the line. -/
def ExecutedLine.Leaves (e : ExecutedLine) : Prop :=
  (e.shell.execute e.text {}).shell.session.exiting = true

/-- A round of a dialogue, without what was taken for its line. -/
def Round.executed (r : Round) : ExecutedLine := ⟨r.text, r.shell⟩

/-- A call of one of the loops that execute lines. -/
inductive LoopCall where
  /-- The lines are asked for. -/
  | dialogue
  /-- They are those of a text. -/
  | script (text : Supply)

/-- The lines that a call executes without looking whether the session is to be left. -/
def LoopCall.unasked : LoopCall → List String
  | .dialogue => []
  | .script text => ((Shell.linesOf text).1.take 1).map Bytes.toStringLossy

/-- Of these calls, only those execute a line that do not look whether the session is to be left,
    and they execute one. -/
def UnaskedOnly (calls : List LoopCall) (traces : List (List ExecutedLine)) : Prop :=
  List.Forall₂ (fun call trace => trace.map ExecutedLine.text = call.unasked) calls traces

theorem LoopCall.unasked_eq_nil_iff {call : LoopCall} :
    call.unasked = [] ↔ ∀ text, call = .script text → (Shell.linesOf text).1 = [] := by
  cases call with
  | dialogue => simp [unasked]
  | script text => simp [unasked]

/-- Such calls execute no line exactly if there is none in their scripts. -/
theorem UnaskedOnly.none_iff {calls : List LoopCall} {traces : List (List ExecutedLine)}
    (h : UnaskedOnly calls traces) : (∀ trace ∈ traces, trace = []) ↔
      ∀ text, LoopCall.script text ∈ calls → (Shell.linesOf text).1 = [] := by
  induction h with
  | nil => simp
  | @cons call trace calls traces htrace _ ih =>
    have hcall : trace = [] ↔ ∀ text, call = .script text → (Shell.linesOf text).1 = [] := by
      rw [← LoopCall.unasked_eq_nil_iff, ← htrace, List.map_eq_nil_iff]
    rw [List.forall_mem_cons, ih, hcall]
    constructor
    · rintro ⟨hfirst, hothers⟩ text htext
      rcases List.mem_cons.1 htext with hhead | htail
      · exact hfirst text hhead.symm
      · exact hothers text htail
    · intro hall
      refine ⟨fun text hhead => hall text ?_, fun text htail => hall text ?_⟩
      · rw [hhead]
        exact List.mem_cons_self
      · exact List.mem_cons_of_mem call htail

namespace Shell

variable {sh after : Shell} {line : Bytes} {lines executed : List Bytes}
  {rounds : List Round} {result : Except Failure Unit} {call : LoopCall}
  {trace front back : List ExecutedLine} {e : ExecutedLine}

/-- The lines that are executed one after the other, each with its shell. -/
def traceOf (sh : Shell) : List Bytes → List ExecutedLine
  | [] => []
  | line :: rest => ⟨line.toStringLossy, sh.reap.1⟩ :: (sh.afterLine line).traceOf rest

theorem traceOf_map_text (sh : Shell) (lines : List Bytes) :
    (sh.traceOf lines).map ExecutedLine.text = lines.map Bytes.toStringLossy := by
  induction lines generalizing sh with
  | nil => rfl
  | cons line rest ih => rw [traceOf, List.map_cons, List.map_cons, ih]

/-- A call executes these lines, and leaves the shell like this. -/
inductive Serves (sh : Shell) : LoopCall → List ExecutedLine → Shell → Prop
  /-- The rounds of the dialogue. -/
  | dialogue {rounds : List Round} {result : Except Failure Unit} {after : Shell} :
      sh.Talks rounds result after → Serves sh .dialogue (rounds.map Round.executed) after
  /-- The lines of the script up to the first that ends the session. -/
  | script {text : Supply} {executed : List Bytes} : sh.Executes (linesOf text).1 executed →
      Serves sh (.script text) (sh.traceOf executed) (sh.runScript text).2

/-- The shell after a call. -/
def afterCall (sh : Shell) : LoopCall → Shell
  | .dialogue => sh.converse.2
  | .script text => (sh.runScript text).2

/-- Calls one after the other, with the lines that each of them executes. -/
inductive ServesAll : Shell → List LoopCall → List (List ExecutedLine) → Shell → Prop
  /-- Without calls nothing happens. -/
  | nil {sh : Shell} : ServesAll sh [] [] sh
  /-- After the first call, the others are served by the shell that it leaves. -/
  | cons {sh next after : Shell} {call : LoopCall} {calls : List LoopCall}
      {trace : List ExecutedLine} {traces : List (List ExecutedLine)} :
      sh.Serves call trace next → ServesAll next calls traces after →
      ServesAll sh (call :: calls) (trace :: traces) after

/-! ### Lines -/

/-- **After a line** the session is to be left exactly if it was before, or if the line is a `quit`
    that takes its arguments. -/
theorem execute_exiting_iff (sh : Shell) (line : String) (io : Streams) :
    (sh.execute line io).shell.session.exiting = true ↔
      sh.session.exiting = true ∨ sh.Quits line := by
  rcases execute_effect sh line io with hmoves | ⟨files, hquits, hafter⟩ | ⟨-, hquits, hkeeps⟩
  · obtain ⟨path, hsession⟩ := hmoves.session_eq
    rw [hsession]
    exact ⟨.inl, fun h => h.resolve_right hmoves.not_quits⟩
  · rw [hafter]
    exact ⟨fun _ => .inr hquits, fun _ => rfl⟩
  · rw [hkeeps.exiting]
    exact ⟨.inl, fun h => h.resolve_right hquits⟩

theorem lineOutcome_exiting (h : sh.session.exiting = true) (line : Bytes) :
    (sh.lineOutcome line).shell.session.exiting = true :=
  (execute_exiting_iff sh.reap.1 line.toStringLossy {}).2 (.inl h)

/-- Nothing that happens in a session takes back that it is to be left. -/
theorem lasting_exiting : Lasting fun sh => sh.session.exiting = true where
  executes line io h := (execute_exiting_iff _ line io).2 (.inl h)
  reaps h := h
  elapses _ _ _ h := h

/-! ### The loops of a session that is to be left -/

theorem stops_of_exiting (h : sh.session.exiting = true) : sh.stops = true := by
  rw [stops, h, Bool.true_or]

/-- A dialogue of such a session has no round, and does nothing. -/
theorem Talks.of_exiting (h : sh.Talks rounds result after) (hexit : sh.session.exiting = true) :
    rounds = [] ∧ result = .ok () ∧ after = sh :=
  h.unique (.left (stops_of_exiting hexit))

/-- A script of such a session executes its first line, if it has one, and no other. -/
theorem Executes.of_exiting (h : sh.Executes lines executed) (hexit : sh.session.exiting = true) :
    executed = lines.take 1 := by
  cases executed with
  | nil =>
    -- Without a line that ends the session, all lines are executed, so there are none.
    by_contra hne
    have hlines : ([] : List Bytes) ≠ lines := fun hnil => hne (by rw [← hnil]; rfl)
    obtain ⟨before, line, hsplit, -⟩ := h.ends hlines
    simp at hsplit
  | cons line rest =>
    have hlast : rest = [] := by
      by_contra hmore
      exact h.goesOn [] line rest rfl hmore (.inr (.inl (lineOutcome_exiting hexit line)))
    subst hlast
    obtain ⟨others, rfl⟩ := h.initial
    rfl

/-- A call on such a session executes a line only if it does not look first, and the session is
    still to be left. -/
theorem Serves.of_exiting (h : sh.Serves call trace after) (hexit : sh.session.exiting = true) :
    after.session.exiting = true ∧ trace.map ExecutedLine.text = call.unasked := by
  rcases h with htalks | hexec
  · obtain ⟨rfl, -, rfl⟩ := htalks.of_exiting hexit
    exact ⟨hexit, rfl⟩
  · rw [runScript_snd, hexec.runLines_snd, traceOf_map_text, hexec.of_exiting hexit]
    exact ⟨lasting_exiting.afterLines hexit _, rfl⟩

/-! ### The line that asks to leave -/

/-- It is the last one of its dialogue. -/
theorem Talks.leaves_last {before later : List Round} {r : Round}
    (h : sh.Talks rounds result after) (hsplit : rounds = before ++ r :: later)
    (hleaves : r.executed.Leaves) : later = [] ∧ after.session.exiting = true := by
  have hafter : r.after.2.session.exiting = true := by
    rw [Round.after, settle_session]
    exact hleaves
  induction h generalizing before with
  | left | finished | failed => simp at hsplit
  | fatal hears hround =>
    rw [eq_comm, List.append_eq_singleton_iff] at hsplit
    rcases hsplit with ⟨-, hlast⟩ | ⟨-, hlast⟩
    · obtain ⟨rfl, rfl⟩ := List.cons.inj hlast
      rw [hround] at hafter
      exact ⟨rfl, hafter⟩
    · cases hlast
  | round hears hround htalks ih =>
    cases before with
    | nil =>
      -- The dialogue looks before it goes on.
      obtain ⟨rfl, rfl⟩ := List.cons.inj hsplit
      rw [hround] at hafter
      obtain ⟨rfl, -, rfl⟩ := htalks.of_exiting hafter
      exact ⟨rfl, hafter⟩
    | cons first before => exact ih (List.cons.inj hsplit).2

/-- It is the last one of its script. -/
theorem Executes.leaves_last {before later : List Bytes}
    (h : sh.Executes lines executed) (hsplit : executed = before ++ line :: later)
    (hleaves : ((sh.afterLines before).lineOutcome line).shell.session.exiting = true) :
    later = [] ∧ (sh.afterLines executed).session.exiting = true := by
  have hlast : later = [] := by
    by_contra hmore
    exact h.goesOn before line later hsplit hmore (.inr (.inl hleaves))
  refine ⟨hlast, ?_⟩
  have hafter : sh.afterLines executed = (sh.afterLines before).afterLine line := by
    rw [hsplit, hlast]
    exact List.foldl_concat ..
  rw [hafter, afterLine_session]
  exact hleaves

/-- The line was executed after others, which left its shell. -/
theorem traceOf_eq_append {sh : Shell} {lines : List Bytes} {front back : List ExecutedLine}
    {e : ExecutedLine} (h : sh.traceOf lines = front ++ e :: back) :
    ∃ before line later, lines = before ++ line :: later ∧
      e = ⟨line.toStringLossy, (sh.afterLines before).reap.1⟩ ∧ back.length = later.length := by
  induction front generalizing sh lines with
  | nil =>
    cases lines with
    | nil => cases h
    | cons line later =>
      obtain ⟨rfl, rfl⟩ := List.cons.inj h
      refine ⟨[], line, later, rfl, rfl, ?_⟩
      rw [← List.length_map ExecutedLine.text, traceOf_map_text, List.length_map]
  | cons first front ih =>
    cases lines with
    | nil => cases h
    | cons start lines =>
      obtain ⟨before, line, later, rfl, he, hlength⟩ := ih (List.cons.inj h).2
      exact ⟨start :: before, line, later, rfl, he, hlength⟩

/-- **Within a call** no line is executed after the one that asks to leave. -/
theorem Serves.leaves_last (h : sh.Serves call (front ++ e :: back) after) (hleaves : e.Leaves) :
    back = [] ∧ after.session.exiting = true := by
  generalize htrace : front ++ e :: back = trace at h
  rcases h with htalks | hexec
  · obtain ⟨before, others, hsplit, -, hothers⟩ := List.map_eq_append_iff.1 htrace.symm
    obtain ⟨r, later, rfl, rfl, rfl⟩ := List.map_eq_cons_iff.1 hothers
    obtain ⟨rfl, hexit⟩ := htalks.leaves_last hsplit hleaves
    exact ⟨rfl, hexit⟩
  · obtain ⟨before, line, later, hsplit, rfl, hlength⟩ := traceOf_eq_append htrace.symm
    obtain ⟨rfl, hexit⟩ := hexec.leaves_last hsplit hleaves
    rw [runScript_snd, hexec.runLines_snd]
    exact ⟨List.length_eq_zero_iff.1 hlength, hexit⟩

/-! ### Calls one after the other -/

/-- **There are** lines that a call executes, and it leaves the shell that its loop leaves. -/
theorem exists_serves (sh : Shell) (call : LoopCall) :
    ∃ trace, sh.Serves call trace (sh.afterCall call) := by
  cases call with
  | dialogue =>
    obtain ⟨rounds, htalks⟩ := sh.converse_talks
    exact ⟨_, .dialogue htalks⟩
  | script text =>
    obtain ⟨executed, hexec, -⟩ := sh.runLines_executes (linesOf text).1
    exact ⟨_, .script hexec⟩

theorem exists_servesAll (sh : Shell) (calls : List LoopCall) :
    ∃ traces, sh.ServesAll calls traces (calls.foldl afterCall sh) := by
  induction calls generalizing sh with
  | nil => exact ⟨[], .nil⟩
  | cons call calls ih =>
    obtain ⟨trace, hcall⟩ := sh.exists_serves call
    obtain ⟨traces, hcalls⟩ := ih (sh.afterCall call)
    exact ⟨trace :: traces, .cons hcall hcalls⟩

/-- The calls on a session that is to be left execute a line only if they do not look first. -/
theorem ServesAll.of_exiting {calls : List LoopCall} {traces : List (List ExecutedLine)}
    (h : sh.ServesAll calls traces after) (hexit : sh.session.exiting = true) :
    after.session.exiting = true ∧ UnaskedOnly calls traces := by
  induction h with
  | nil => exact ⟨hexit, .nil⟩
  | cons hcall _ ih =>
    obtain ⟨hnext, htrace⟩ := hcall.of_exiting hexit
    obtain ⟨hafter, hcalls⟩ := ih hnext
    exact ⟨hafter, .cons htrace hcalls⟩

/-- After the line that asks to leave, its call executes no other line, and of the later calls only
    those that do not look first execute one. -/
theorem ServesAll.after_leaving {earlier later : List LoopCall}
    {tracesBefore tracesAfter : List (List ExecutedLine)}
    (h : sh.ServesAll (earlier ++ call :: later)
      (tracesBefore ++ (front ++ e :: back) :: tracesAfter) after)
    (hlength : tracesBefore.length = earlier.length) (hleaves : e.Leaves) :
    back = [] ∧ after.session.exiting = true ∧ UnaskedOnly later tracesAfter := by
  induction earlier generalizing sh tracesBefore with
  | nil =>
    obtain rfl := List.length_eq_zero_iff.1 hlength
    cases h with
    | cons hcall hcalls =>
      obtain ⟨hlast, hexit⟩ := hcall.leaves_last hleaves
      exact ⟨hlast, hcalls.of_exiting hexit⟩
  | cons first earlier ih =>
    cases tracesBefore with
    | nil => cases hlength
    | cons trace tracesBefore =>
      cases h with
      | cons _ hcalls => exact ih hcalls (Nat.succ.inj hlength)

/-- **After the line that asks to leave.** Whatever calls of the two loops are made on a shell, one
    after the other, there are lines that they execute. On a session that is to be left, a dialogue
    executes none, and a script its first line, if it has one, and no other; so no line is executed
    exactly if no script has one. The same holds of the calls after the one that executes a line
    that asks to leave, and that call executes no line after it. The session is still to be left
    afterwards. -/
theorem servesAll_leaving (sh : Shell) (calls : List LoopCall) :
    (∃ traces, sh.ServesAll calls traces (calls.foldl afterCall sh)) ∧
    ∀ (traces : List (List ExecutedLine)) (after : Shell), sh.ServesAll calls traces after →
      (sh.session.exiting = true → after.session.exiting = true ∧ UnaskedOnly calls traces ∧
        ((∀ trace ∈ traces, trace = []) ↔
          ∀ text, .script text ∈ calls → (linesOf text).1 = [])) ∧
      ∀ (earlier later : List LoopCall) (call : LoopCall)
        (tracesBefore tracesAfter : List (List ExecutedLine)) (front back : List ExecutedLine)
        (e : ExecutedLine), calls = earlier ++ call :: later →
        traces = tracesBefore ++ (front ++ e :: back) :: tracesAfter →
        tracesBefore.length = earlier.length → e.Leaves →
        back = [] ∧ after.session.exiting = true ∧ UnaskedOnly later tracesAfter ∧
          ((∀ trace ∈ tracesAfter, trace = []) ↔
            ∀ text, .script text ∈ later → (linesOf text).1 = []) := by
  refine ⟨sh.exists_servesAll calls, fun traces after hserves => ⟨fun hexit => ?_, ?_⟩⟩
  · obtain ⟨hafter, hunasked⟩ := hserves.of_exiting hexit
    exact ⟨hafter, hunasked, hunasked.none_iff⟩
  · rintro earlier later call tracesBefore tracesAfter front back e rfl rfl hlength hleaves
    obtain ⟨hlast, hafter, hunasked⟩ := hserves.after_leaving hlength hleaves
    exact ⟨hlast, hafter, hunasked, hunasked.none_iff⟩

end Shell

namespace Sample

/-- A script that leaves the session. -/
def leaving : Supply := { pending := Bytes.ofString "quit\n" }

/-- A script that writes. -/
def writing : Supply := { pending := Bytes.ofString "echo a\n" }

/-- The shell of a session that is to be left. -/
def left : Shell := { shell with session := { shell.session with exiting := true } }

theorem starts_quit : shell.reap.1.Starts "quit" ⟨"quit", [], [], false, files, {}⟩ :=
  ⟨by decide +kernel, .nil⟩

theorem starts_written : left.reap.1.Starts "echo a" ⟨"echo", ["a"], [], false, files, {}⟩ :=
  ⟨by decide +kernel, .nil⟩

theorem lineOutcome_quit : (shell.lineOutcome (Bytes.ofString "quit")).result = .ok 0 ∧
    (shell.lineOutcome (Bytes.ofString "quit")).shell = left := by
  have hquit : (Bytes.ofString "quit").toStringLossy = "quit" := by decide +kernel
  rw [Shell.lineOutcome, hquit, Shell.execute_of_starts starts_quit]
  exact ⟨rfl, rfl⟩

theorem afterLine_quit : shell.afterLine (Bytes.ofString "quit") = left := by
  obtain ⟨hresult, hshell⟩ := lineOutcome_quit
  rw [Shell.afterLine, hresult]
  exact hshell

/-- The only line of the first script leaves the session. -/
theorem executes_leaving :
    shell.Executes (Shell.linesOf leaving).1 [Bytes.ofString "quit"] := by
  have hlines : (Shell.linesOf leaving).1 = [Bytes.ofString "quit"] := by decide +kernel
  obtain ⟨-, hshell⟩ := lineOutcome_quit
  rw [hlines]
  exact Shell.executes_of_ends (.inr (.inl (by rw [hshell]; rfl))) []

/-- The only line of the second one is executed on a session that is to be left. -/
theorem executes_writing : left.Executes (Shell.linesOf writing).1 [Bytes.ofString "echo a"] := by
  have hlines : (Shell.linesOf writing).1 = [Bytes.ofString "echo a"] := by decide +kernel
  rw [hlines]
  exact Shell.executes_of_ends (.inr (.inl (Shell.lineOutcome_exiting rfl _))) []

theorem runScript_leaving : (shell.runScript leaving).2 = left := by
  rw [Shell.runScript_snd, executes_leaving.runLines_snd]
  exact afterLine_quit

/-- Both lines are executed, one by each script. -/
theorem servesAll_left : shell.ServesAll [.script leaving, .script writing, .dialogue]
    [[⟨"quit", shell.reap.1⟩], [⟨"echo a", left.reap.1⟩], []] (left.runScript writing).2 := by
  have hquit : shell.traceOf [Bytes.ofString "quit"] = [⟨"quit", shell.reap.1⟩] := by
    have htext : (Bytes.ofString "quit").toStringLossy = "quit" := by decide +kernel
    rw [Shell.traceOf, htext]
    rfl
  have hecho : left.traceOf [Bytes.ofString "echo a"] = [⟨"echo a", left.reap.1⟩] := by
    have htext : (Bytes.ofString "echo a").toStringLossy = "echo a" := by decide +kernel
    rw [Shell.traceOf, htext]
    rfl
  have hleaves := Shell.Serves.script executes_leaving
  have hwrites := Shell.Serves.script executes_writing
  rw [hquit, runScript_leaving] at hleaves
  rw [hecho] at hwrites
  obtain ⟨hexit, -⟩ := hwrites.of_exiting rfl
  exact .cons hleaves (.cons hwrites (.cons (.dialogue (.left (Shell.stops_of_exiting hexit))) .nil))

/-- Of the two calls after the line that leaves, the script executes its line and the dialogue
    none. -/
theorem unaskedOnly_left :
    shell.ServesAll [.script leaving, .script writing, .dialogue]
      [[⟨"quit", shell.reap.1⟩], [⟨"echo a", left.reap.1⟩], []] (left.runScript writing).2 ∧
    (⟨"quit", shell.reap.1⟩ : ExecutedLine).Leaves ∧
    (left.runScript writing).2.session.exiting = true ∧
    UnaskedOnly [.script writing, .dialogue] [[⟨"echo a", left.reap.1⟩], []] := by
  have hleaves : (⟨"quit", shell.reap.1⟩ : ExecutedLine).Leaves :=
    (Shell.execute_exiting_iff _ _ _).2 (.inr ⟨_, starts_quit, rfl, fun _ hword => by cases hword⟩)
  obtain ⟨-, hserved⟩ :=
    Shell.servesAll_leaving shell [.script leaving, .script writing, .dialogue]
  obtain ⟨-, hafter⟩ := hserved _ _ servesAll_left
  obtain ⟨-, hexit, hlater, -⟩ := hafter [] _ _ [] _ [] [] _ rfl rfl rfl hleaves
  exact ⟨servesAll_left, hleaves, hexit, hlater⟩

/-- A session that is to be left does not keep a script from being begun: its line is executed, and
    what it writes is there. -/
theorem leaving_script :
    (shell.runScript leaving).2 = left ∧ left.session.exiting = true ∧
    (left.runScript writing).2.host.world.terminal.output.written = Bytes.ofString "a \n" ∧
    ¬ ∀ (sh after : Shell) (call : LoopCall) (trace : List ExecutedLine),
      sh.session.exiting = true → sh.Serves call trace after → trace = [] := by
  have hoks : (left.lineOutcome (Bytes.ofString "echo a")).result = .ok 0 ∧
      (left.lineOutcome (Bytes.ofString "echo a")).shell.host.world.terminal.output.written
        = Bytes.ofString "a \n" := by
    have htext : (Bytes.ofString "echo a").toStringLossy = "echo a" := by decide +kernel
    rw [Shell.lineOutcome, htext, Shell.execute_of_starts starts_written]
    exact ⟨by decide +kernel, by decide +kernel⟩
  obtain ⟨hresult, hwritten⟩ := hoks
  refine ⟨runScript_leaving, rfl, ?_, fun hnone => ?_⟩
  · rw [Shell.runScript_snd, executes_writing.runLines_snd, Shell.afterLines_cons,
      Shell.afterLines_nil, Shell.afterLine, hresult]
    exact hwritten
  · have hempty := hnone left _ _ _ rfl (.script executes_writing)
    cases hempty

end Sample

end CommandShell
