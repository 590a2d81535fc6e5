import CommandShell.Proofs.DirectoryListing
import CommandShell.Proofs.PairedShells

namespace CommandShell

/-!
# EarlierOutput — what an output held before a command

The memory that a command gets for its output may hold bytes already. They make no difference to the
command, and stay in front of what it writes:

* `Outlet.onto`, `Outcome.onto` — an output in memory, and an outcome, with earlier bytes in front;
* `Outlet.write_onto` — writing does the same with them in front;
* `Shell.launching_onto` — so does every step of a command; `Shell.invoke_onto`,
  `Shell.execute_onto` — so do commands and lines;
* `Shell.invoke_output`, `Shell.execute_output` — of the output of their caller, both keep whatever
  writing keeps;
* `Outcome.Continues` — an outcome goes on from what the output held;
* `Outlet.Shows`, `Outlet.shows_memory` — what is seen by those who keep hold of the memory, before
  it is handed to a command and after that.
-/

/-! ### Writing -/

/-- The memory with earlier bytes in front of those that were written. -/
def Capture.onto (c : Capture) (kept : Bytes) : Capture := { c with written := kept ++ c.written }

/-- The output with earlier bytes in its memory, if that is what it is. -/
def Outlet.onto (outlet : Outlet) (kept : Bytes) : Outlet :=
  match outlet with
  | .memory capture => .memory (capture.onto kept)
  | outlet => outlet

/-- The streams with earlier bytes in the memory of their output. -/
def Streams.onto (io : Streams) (kept : Bytes) : Streams :=
  { io with output := io.output.onto kept }

/-- The outcome with earlier bytes in the memory of the output. -/
def Outcome.onto {ε : Type} (o : Outcome ε) (kept : Bytes) : Outcome ε :=
  { o with streams := o.streams.onto kept }

/-- Earlier bytes take no room. -/
theorem Capture.put_onto (c : Capture) (kept bytes : Bytes) :
    (c.onto kept).put bytes = ((c.put bytes).1, (c.put bytes).2.onto kept) := by
  obtain ⟨written, room, failure⟩ := c
  rcases room with _ | ⟨room, reason⟩
  · show (Except.ok (), Capture.mk (kept ++ written ++ bytes) none failure) = _
    rw [List.append_assoc]
    rfl
  · show (_, Capture.mk (kept ++ written ++ bytes.take room) _ failure) = _
    rw [List.append_assoc]
    rfl

namespace Outlet

theorem write_onto (outlet : Outlet) (w : World) (kept bytes : Bytes) :
    (outlet.onto kept).write w bytes =
      ((outlet.write w bytes).1, (outlet.write w bytes).2.1.onto kept,
        (outlet.write w bytes).2.2) := by
  cases outlet with
  | memory capture =>
    have hput := capture.put_onto kept bytes
    show (((capture.onto kept).put bytes).1, Outlet.memory ((capture.onto kept).put bytes).2, w)
      = _
    rw [hput]
    rfl
  | file handle =>
    unfold onto write
    simp only
    rcases w.files.write handle.node _ bytes with reason | files <;> rfl
  | discard | terminal | diagnostics => rfl

theorem flush_onto (outlet : Outlet) (w : World) (kept : Bytes) :
    (outlet.onto kept).flush w = outlet.flush w := by
  cases outlet <;> rfl

/-- No child gets at them. -/
theorem forChild_onto (outlet : Outlet) (kept : Bytes) :
    (outlet.onto kept).forChild = outlet.forChild := by
  cases outlet <;> rfl

end Outlet

namespace Streams

theorem write_onto (io : Streams) (sh : Shell) (kept bytes : Bytes) :
    (io.onto kept).write sh bytes =
      ((io.write sh bytes).1, (io.write sh bytes).2.1.onto kept, (io.write sh bytes).2.2) := by
  have hwrite := io.output.write_onto sh.host.world kept bytes
  unfold write
  simp only [onto, hwrite]

theorem flush_onto (io : Streams) (sh : Shell) (kept : Bytes) :
    (io.onto kept).flush sh = io.flush sh := by
  have hflush := io.output.flush_onto sh.host.world kept
  unfold flush
  simp only [onto, hflush]

end Streams

/-! ### Commands and lines -/

/-- A child is started in the same way. -/
theorem Host.spawn_onto (h : Host) (request : Launch) (kept : Bytes) :
    h.spawn { request with output := request.output.onto kept } = h.spawn request := by
  -- A child gets what `forChild` leaves of the output, and that is never memory.
  have hstart : h.start { request with output := request.output.onto kept } = h.start request := by
    unfold start
    simp only [Outlet.forChild_onto]
  unfold spawn
  rw [hstart]
  rfl

namespace OpenedFiles

/-- A file that stands in for the output of the caller holds nothing of that. -/
theorem streams_onto (opened : OpenedFiles) (io : Streams) (kept : Bytes) :
    opened.streams (io.onto kept) = (opened.streams io).onto kept := by
  obtain ⟨input, _ | handle⟩ := opened <;> rfl

theorem restore_onto (opened : OpenedFiles) (before after : Streams) (kept : Bytes) :
    opened.restore (before.onto kept) (after.onto kept)
      = (opened.restore before after).onto kept := by
  obtain ⟨input, _ | handle⟩ := opened <;> rfl

end OpenedFiles

namespace Shell

/-- **Earlier bytes** make no difference to the steps of commands. A command that has a file for its
    output gets none of them, and neither does a child: they are in the output that the caller has
    back. -/
theorem launching_onto (kept : Bytes) : Launching Eq fun io io' => io' = io.onto kept where
  session := by
    rintro sh _ rfl
    rfl
  files := by
    rintro sh _ rfl
    rfl
  openIn := by
    rintro sh _ rfl r files
    rfl
  withFiles := by
    rintro sh _ rfl files
    rfl
  readDirectory := by
    rintro sh _ rfl path
    rfl
  goTo := by
    rintro sh _ rfl target
    exact .refl fun _ => rfl
  reap := by
    rintro sh _ rfl
    rfl
  leave := by
    rintro sh _ rfl
    rfl
  complain := by
    rintro sh _ rfl text
    rfl
  write := by
    rintro sh _ io _ rfl rfl bytes
    rw [PairedUse, Streams.write_onto]
    exact ⟨rfl, rfl, rfl⟩
  flush := by
    rintro sh _ io _ rfl rfl
    exact io.flush_onto sh kept
  streams := by
    rintro io _ rfl opened
    exact opened.streams_onto io kept
  restore := by
    rintro before _ after _ rfl rfl opened
    exact opened.restore_onto before after kept
  skipLine := by
    rintro sh _ io _ rfl rfl
    exact ⟨rfl, rfl, rfl⟩
  passOn := by
    rintro sh _ rfl
    rfl
  program? := by
    rintro sh _ rfl c
    rfl
  spawn := by
    rintro sh _ io _ rfl rfl program arguments
    have hspawn := sh.host.spawn_onto (sh.launch io program arguments) kept
    exact hspawn ▸ .refl fun _ => ⟨rfl, rfl⟩
  wait := by
    rintro sh _ rfl pid
    exact .refl fun _ => ⟨rfl, rfl⟩
  record := by
    rintro sh _ rfl c pid
    rfl

/-- Commands do the same, whatever their output held before. -/
theorem invoke_onto (sh : Shell) (name : String) (arguments : List String) (background : Bool)
    (io : Streams) (kept : Bytes) :
    sh.invoke name arguments background (io.onto kept)
      = (sh.invoke name arguments background io).onto kept := by
  obtain ⟨hresult, hstreams, hshell⟩ :=
    (launching_onto kept).invoke (Eq.refl sh) (Eq.refl (io.onto kept)) name arguments background
  rw [Outcome.onto, hshell, ← hresult, ← hstreams]

/-- **Lines** do the same, also those that put a file in place of the output. -/
theorem execute_onto (sh : Shell) (line : String) (io : Streams) (kept : Bytes) :
    sh.execute line (io.onto kept) = (sh.execute line io).onto kept := by
  obtain ⟨hresult, hstreams, hshell⟩ :=
    (launching_onto kept).execute (Eq.refl sh) (Eq.refl (io.onto kept)) line
  rw [Outcome.onto, hshell, ← hresult, ← hstreams]

end Shell

/-! ### What writing keeps of an output -/

/-- The pager has an output of its own. -/
theorem Builtin.showManual_streams (io : Streams) (sh : Shell) :
    (showManual io sh).streams = io := by
  rw [showManual_eq]
  rcases Streams.flush {} sh with failure | ⟨⟩
  · rfl
  · rcases sh.host.spawn (pagerRequest io sh) with cause | ⟨pid, started⟩
    · rfl
    · simp only
      rcases started.wait pid with cause | ⟨status, host⟩ <;> rfl

section Kept

variable {P : Outlet → Prop} {io : Streams}
  (hwrite : ∀ (outlet : Outlet) (w : World) (bytes : Bytes), P outlet → P (outlet.write w bytes).2.1)
  (hio : P io.output)

include hwrite hio

namespace Builtin

theorem awaitLine_output (sh : Shell) : P (awaitLine io sh).streams.output := by
  have hprompted : P (io.write sh (Bytes.ofString pauseMessage)).2.1.output := hwrite _ _ _ hio
  unfold awaitLine
  rcases hwrote : io.write sh (Bytes.ofString pauseMessage) with ⟨_ | ⟨⟩, io', sh'⟩
  all_goals rw [hwrote] at hprompted
  · exact hprompted
  · simp only
    -- Waiting for a line leaves the output alone.
    rcases io'.flush sh' with failure | ⟨⟩ <;> exact hprompted

theorem perform_output (b : Builtin) (operands : List String) (sh : Shell) :
    P (b.perform operands io sh).streams.output := by
  cases b with
  | cd =>
    show P (changeDirectory operands.head? io sh).streams.output
    unfold changeDirectory
    split
    · exact hwrite _ _ _ hio
    · split <;> exact hio
  | dir =>
    show P (listDirectory operands.head? io sh).streams.output
    unfold listDirectory
    simp only
    split
    · exact hio
    · exact hwrite _ _ _ hio
  | help =>
    show P (showManual io sh).streams.output
    rwa [showManual_streams]
  | pause => exact awaitLine_output hwrite hio sh
  | quit => exact hio
  | clr | environ | echo | jobs => exact hwrite _ _ _ hio

/-- Built-in commands do nothing to their output but write to it. -/
theorem run_output (b : Builtin) (arguments : List String) (sh : Shell) :
    P (b.run arguments io sh).streams.output := by
  unfold run
  split
  · simp only
    split_ifs
    · exact perform_output hwrite hio b _ sh
    · rw [settle_streams]
      exact perform_output hwrite hio b _ sh
  · exact hwrite _ _ _ hio
  · exact hio

end Builtin

namespace Shell

/-- Nor do commands by name: programs have outputs of their own. -/
theorem invoke_output (sh : Shell) (name : String) (arguments : List String) (background : Bool) :
    P (sh.invoke name arguments background io).streams.output := by
  unfold invoke
  rcases Builtin.ofName? name with _ | b
  · have hcourse := ProgramCommand.run_course ⟨name, arguments, background⟩ io sh
    generalize ProgramCommand.run ⟨name, arguments, background⟩ io sh = o at hcourse
    cases hcourse <;> exact hio
  · exact Builtin.run_output hwrite hio b arguments sh

/-- Nor do lines, to the output of their caller. -/
theorem execute_output (sh : Shell) (line : String) : P (sh.execute line io).streams.output := by
  rcases sh.starts_or_not line with ⟨c, hstarts⟩ | ⟨result, files, hnothing⟩
  · rw [execute_of_starts hstarts]
    obtain ⟨name, arguments, redirections, background, files, input, _ | handle⟩ := c
    · have hstreams : P (OpenedFiles.streams ⟨input, none⟩ io).output := hio
      exact invoke_output hwrite hstreams (sh.withFiles files) name arguments background
    · -- The command has a file for its output, and the caller has its own back.
      exact hio
  · rw [hnothing.execute_eq]
    exact hio

end Shell

end Kept

/-! ### Those who keep hold of the memory -/

/-- A command goes on from what its output held: the outcome is that of a command with memory of its
    own, except that the output holds the earlier bytes, and after them what the command writes. -/
structure Outcome.Continues {ε : Type} (o fresh : Outcome ε) (kept : Bytes) : Prop where
  /-- The result is the same. -/
  result : o.result = fresh.result
  /-- So is the shell. -/
  shell : o.shell = fresh.shell
  /-- Nothing is lost of the earlier bytes or of what is written. -/
  held : ∃ said, fresh.streams.output.held fresh.shell.host.world = some said ∧
    o.streams.output.held o.shell.host.world = some (kept ++ said)

/-- Memory takes everything, and the world has no part in that. -/
theorem Outlet.write_memory (written : Bytes) (w : World) (bytes : Bytes) :
    (Outlet.memory { written }).write w bytes
      = (.ok (), .memory { written := written ++ bytes }, w) := rfl

/-- The output is memory that takes everything. -/
def Outlet.IsBuffer (outlet : Outlet) : Prop := ∃ written, outlet = .memory { written }

theorem Outlet.IsBuffer.write {outlet : Outlet} (h : outlet.IsBuffer) (w : World) (bytes : Bytes) :
    (outlet.write w bytes).2.1.IsBuffer := by
  obtain ⟨written, rfl⟩ := h
  exact ⟨written ++ bytes, by rw [write_memory]⟩

/-- An outcome with earlier bytes in front goes on from them. -/
theorem Outcome.continues_onto {ε : Type} {o : Outcome ε} (h : o.streams.output.IsBuffer)
    (kept : Bytes) : (o.onto kept).Continues o kept := by
  obtain ⟨said, hsaid⟩ := h
  refine ⟨rfl, rfl, said, by rw [hsaid]; rfl, ?_⟩
  show (o.streams.output.onto kept).held o.shell.host.world = _
  rw [hsaid]
  rfl

namespace Outlet

/-- Those who keep hold of the memory behind an output see the bytes in it, whether the output is
    still in their hands or was handed to a command that has ended. -/
structure Shows (outlet : Outlet) (kept : Bytes) : Prop where
  /-- The bytes are there. -/
  held (w : World) : outlet.held w = some kept
  /-- A command goes on from them, a built-in one or a program, in the background or not, … -/
  after_command (sh : Shell) (name : String) (arguments : List String) (background : Bool)
    (input : Inlet) :
    (sh.invoke name arguments background { input, output := outlet }).Continues
      (sh.invoke name arguments background { input, output := .memory {} }) kept
  /-- … and so does a line, also one that fails before its command starts. -/
  after_line (sh : Shell) (line : String) (input : Inlet) :
    (sh.execute line { input, output := outlet }).Continues
      (sh.execute line { input, output := .memory {} }) kept
  /-- What comes after them from a built-in command that knows what to write is its text. -/
  after_builtin (sh : Shell) (b : Builtin) (arguments : List String) (input : Inlet) :
    b ≠ .dir → b ≠ .help →
    let o := b.run arguments { input, output := outlet } sh
    o.streams.output.held o.shell.host.world = some (kept ++ b.text arguments sh)

/-- **Memory** shows what was written to it. -/
theorem shows_memory (kept : Bytes) : (Outlet.memory { written := kept }).Shows kept := by
  -- Memory that holds the bytes is empty memory with the bytes in front.
  have honto (input : Inlet) : (⟨input, .memory { written := kept }⟩ : Streams)
      = Streams.onto ⟨input, .memory {}⟩ kept := by
    show _ = (⟨input, .memory { written := kept ++ [] }⟩ : Streams)
    rw [List.append_nil]
  have hfresh : (Outlet.memory {}).IsBuffer := ⟨[], rfl⟩
  have hwrite (outlet : Outlet) (w : World) (bytes : Bytes) (h : outlet.IsBuffer) :
      (outlet.write w bytes).2.1.IsBuffer := h.write w bytes
  refine ⟨fun w => rfl, fun sh name arguments background input => ?_, fun sh line input => ?_,
    fun sh b arguments input hdir hhelp => ?_⟩
  · rw [honto, Shell.invoke_onto]
    exact Outcome.continues_onto (Shell.invoke_output hwrite hfresh ..) kept
  · rw [honto, Shell.execute_onto]
    exact Outcome.continues_onto (Shell.execute_output hwrite hfresh ..) kept
  · intro o
    have htakes : (Outlet.memory { written := kept }).Takes sh.host.world (b.text arguments sh) :=
      ⟨rfl, rfl⟩
    have hanswers : o.Answers _ _ _ _ := Builtin.run_answers hdir hhelp htakes
    rcases hanswers.output with hwritten | ⟨hnothing, hsame⟩
    · rw [hwritten]
      rfl
    · rw [hsame, hnothing, List.append_nil]
      rfl

end Outlet

end CommandShell
