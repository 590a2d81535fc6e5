import CommandShell.Proofs.Whereabouts

namespace CommandShell

/-!
# PlainOperands — arguments that begin with no dash

A command that takes no operands of its own ignores what it is given. A word that begins with no
dash is no option, but one such word is no operand either: `help` asks for usage where the options
have not ended.

* `Signature.IsPlain` — words none of which begins with a dash;
* `Signature.read_of_plain` — how a command that ignores its operands reads them;
* `Builtin.run_of_plain` — what it does then;
* `Builtin.run_cd_of_enterable`, `Builtin.run_dir_of_located` — `cd` and `dir` with one such word;
* `Shell.invoke_plain_operands` — all of these together.
-/

namespace Signature

variable {arguments taken : List String} {ended : Bool} {word : String}

/-- None of the words begins with a dash. -/
def IsPlain (arguments : List String) : Prop :=
  ∀ word ∈ arguments, word.toList.head? ≠ some '-'

/-- The request for usage that begins with no dash. -/
def plainRequest : String := "help"

/-- Of the words that begin with no dash, it is the only request for usage. -/
theorem isUsageRequest_iff_of_plain (h : word.toList.head? ≠ some '-') :
    isUsageRequest word = true ↔ word = plainRequest := by
  have hother : word ≠ "--help" := by
    rintro rfl
    exact h rfl
  simp [isUsageRequest, plainRequest, hother]

/-- Once usage was asked for, such words do not take that back. -/
theorem readFrom_asked_of_plain (h : IsPlain arguments) :
    readFrom .ignored true ended taken arguments = .usage := by
  induction arguments generalizing ended taken with
  | nil => rfl
  | cons word rest ih =>
    obtain ⟨hword, hrest⟩ := List.forall_mem_cons.1 h
    have hmarker : word ≠ "--" := by
      rintro rfl
      exact hword rfl
    rw [readFrom]
    split_ifs with husage hends hoption
    · exact ih hrest
    · exact ih hrest
    · exact absurd hoption (by simp [hword])
    · exact ih hrest

/-- **Words that begin with no dash** are operands for a command that ignores its operands, unless
    the first of them asks for usage. -/
theorem read_of_plain {s : Signature} (hform : s.form = .ignored) (h : IsPlain arguments) :
    s.read arguments =
      if arguments.head? = some plainRequest then .usage else .accepted arguments := by
  unfold read
  rw [hform]
  rcases arguments with _ | ⟨word, rest⟩
  · rfl
  · obtain ⟨hword, hrest⟩ := List.forall_mem_cons.1 h
    have hmarker : word ≠ "--" := by
      rintro rfl
      exact hword rfl
    have husage := isUsageRequest_iff_of_plain hword
    -- The first word decides: it asks for usage, or it ends the options.
    rw [readFrom]
    simp only [List.head?_cons, Option.some.injEq]
    by_cases hask : word = plainRequest
    · rw [if_pos (by simp [husage.2 hask]), if_pos hask]
      exact readFrom_asked_of_plain hrest
    · have hnot : isUsageRequest word = false := Bool.eq_false_iff.2 fun h => hask (husage.1 h)
      rw [if_neg (by simp [hnot]), if_neg (by simp [hmarker]), if_neg (by simp [hword]),
        if_neg hask]
      exact readFrom_ignored_ended [word] rest

/-- One such word is the operand of a command that takes one, unless it asks for usage. -/
theorem read_of_plain_word {s : Signature} {name help : String}
    (hform : s.form = .optional name help) (h : word.toList.head? ≠ some '-') :
    s.read [word] = if word = plainRequest then .usage else .accepted [word] := by
  have hmarker : word ≠ "--" := by
    rintro rfl
    exact h rfl
  have husage := isUsageRequest_iff_of_plain h
  unfold read
  rw [hform, readFrom]
  by_cases hask : word = plainRequest
  · rw [if_pos (by simp [husage.2 hask]), if_pos hask]
    rfl
  · have hnot : isUsageRequest word = false := Bool.eq_false_iff.2 fun h => hask (husage.1 h)
    rw [if_neg (by simp [hnot]), if_neg (by simp [hmarker]), if_neg (by simp [h]), if_neg hask]
    rfl

end Signature

/-! ### Commands -/

/-- A path that leads the shell to a directory which can be entered by its canonical path. -/
structure Shell.CanEnter (sh : Shell) (path : Path) (found : Location) : Prop where
  /-- The path leads there. -/
  leads : sh.host.world.files.canonicalize sh.host.directory path = .ok found
  /-- There is a directory. -/
  holds : sh.host.world.files.isDirectory found.node = true
  /-- Its canonical path is not too long. -/
  admitted : FileSystem.checkPath found.path = .ok ()
  /-- It can be handed to the system. -/
  no_nul : found.path.bytes.hasNul = false

/-- The shell's process can move there. -/
theorem Shell.CanEnter.changeDirectory {sh : Shell} {path : Path} {found : Location}
    (h : sh.CanEnter path found) :
    sh.host.changeDirectory found.path = .ok { sh.host with directory := found } := by
  have hlocate := FileSystem.locate_canonical h.leads h.admitted sh.host.directory
  exact Host.changeDirectory_eq_ok.2 ⟨h.no_nul, found, hlocate, h.holds, rfl⟩

namespace Builtin

variable {b : Builtin} {arguments : List String} {word : String} {sh : Shell}

/-- What is written to explain the command. -/
def explanation (b : Builtin) : Bytes := Bytes.ofString (trimBlankEnd b.signature.usage ++ "\n")

/-- The commands that ignore their operands. -/
def Ignores (b : Builtin) : Prop := b ∈ [.clr, .environ, .help, .pause, .quit, .jobs]

instance (b : Builtin) : Decidable b.Ignores := inferInstanceAs (Decidable (b ∈ _))

theorem Ignores.form (h : b.Ignores) : b.signature.form = .ignored := by
  cases b with
  | cd | dir | echo => exact absurd h (by decide)
  | _ => rfl

/-- They read their arguments as they say of themselves. -/
theorem Ignores.read (h : b.Ignores) (arguments : List String) :
    b.read arguments = b.signature.read arguments := by
  cases b with
  | cd | dir | echo => exact absurd h (by decide)
  | _ => rfl

/-- They do the same whatever the operands are. -/
theorem Ignores.perform (h : b.Ignores) (operands : List String) (io : Streams) (sh : Shell) :
    b.perform operands io sh = b.perform [] io sh := by
  cases b with
  | cd | dir | echo => exact absurd h (by decide)
  | _ => rfl

/-- A request for usage is answered on the output, and nothing else is done. -/
theorem run_of_usage (h : b.read arguments = .usage) (io : Streams) (sh : Shell) :
    b.run arguments io sh = done (io.write sh b.explanation) := by
  unfold run
  rw [h]
  rfl

/-- **Words that begin with no dash** make no difference to a command that ignores its operands,
    unless the first of them asks for usage. -/
theorem run_of_plain (hb : b.Ignores) (h : Signature.IsPlain arguments)
    (hask : arguments.head? ≠ some Signature.plainRequest) (io : Streams) (sh : Shell) :
    b.run arguments io sh = b.run [] io sh := by
  have hread : b.read arguments = .accepted arguments := by
    rw [hb.read, Signature.read_of_plain hb.form h, if_neg hask]
  have hnone : b.read [] = .accepted [] := by
    rw [hb.read, Signature.read_of_plain hb.form (by simp [Signature.IsPlain])]
    rfl
  unfold run
  rw [hread, hnone]
  dsimp only
  rw [hb.perform arguments]

/-- `cd` enters the directory that such a word leads to. -/
theorem run_cd_of_enterable {found : Location} (h : word.toList.head? ≠ some '-')
    (hask : word ≠ Signature.plainRequest)
    (hfound : sh.CanEnter (sh.session.directory.join (Path.ofString word)) found)
    (io : Streams) : ∃ moved : Shell, moved.whereabouts = .of found ∧
      Builtin.cd.run [word] io sh = ⟨(io.flush moved).map fun () => 0, io, moved⟩ := by
  have hread : Builtin.cd.read [word] = .accepted [word] := by
    show Builtin.cd.signature.read [word] = _
    rw [Signature.read_of_plain_word rfl h, if_neg hask]
  have hgo := goTo_eq_ok.2 ⟨found, _, hfound.leads, hfound.changeDirectory, rfl⟩
  exact ⟨_, sh.movedTo_whereabouts found, run_cd_of_moved hread hgo io⟩

/-- `dir` lists the directory that such a word leads to. -/
theorem run_dir_of_located {found : Location} {entries : List (Bytes × NodeId)}
    (h : word.toList.head? ≠ some '-') (hask : word ≠ Signature.plainRequest)
    (hnul : (sh.session.directory.join (Path.ofString word)).bytes.hasNul = false)
    (hfound : sh.host.world.files.locate sh.host.directory
      (sh.session.directory.join (Path.ofString word)) = .ok found)
    (hentries : sh.host.world.files.entries? found.node = some entries) (io : Streams) :
    Builtin.dir.run [word] io sh
      = settle (done (io.write sh (Bytes.ofString (listing (entries.map (·.1)))))) := by
  have hread : Builtin.dir.read [word] = .accepted [word] := by
    show Builtin.dir.signature.read [word] = _
    rw [Signature.read_of_plain_word rfl h, if_neg hask]
  have hnames : sh.host.world.files.readDirectory sh.host.directory
      (sh.session.directory.join (Path.ofString word)) = .ok (entries.map (·.1)) := by
    refine FileSystem.guarded_eq_ok.2 ⟨hnul, ?_⟩
    simp only [bind, Except.bind, hfound, hentries]
  have hperform : Builtin.dir.perform [word] io sh
      = done (io.write sh (Bytes.ofString (listing (entries.map (·.1))))) := by
    show listDirectory (some word) io sh = _
    simp only [listDirectory, Option.getD_some, hnames]
  unfold run
  rw [hread]
  dsimp only
  rw [if_neg (by decide), hperform]

end Builtin

namespace Shell

/-- A built-in command is invoked by its name, in the background or not. -/
theorem invoke_name (b : Builtin) (sh : Shell) (arguments : List String) (background : Bool)
    (io : Streams) : sh.invoke b.name arguments background io = b.run arguments io sh := by
  unfold invoke
  rw [ofName?_name]

/-- **Operands that begin with no dash.**

* A command that ignores its operands does with them what it does without, and so does a line that
  calls it, unless the first of them is `help`. In particular `quit` leaves.
* If it is, such a command explains itself and does nothing else, so `quit` does not leave.
* One such word, if it is not `help`, is the directory that `cd` enters, if the session's directory
  joined with it can be entered, and the one that `dir` lists. With `help` they explain
  themselves. -/
theorem invoke_plain_operands (sh : Shell) (background : Bool) (io : Streams) :
    (∀ b : Builtin, b.Ignores → ∀ arguments, Signature.IsPlain arguments →
      arguments.head? ≠ some "help" →
      sh.invoke b.name arguments background io = sh.invoke b.name [] background io ∧
      (∀ line bare redirections marked,
        CommandLine.parse line = .ok (some ⟨b.name :: arguments, redirections, marked⟩) →
        CommandLine.parse bare = .ok (some ⟨[b.name], redirections, marked⟩) →
        sh.execute line io = sh.execute bare io) ∧
      (b = .quit →
        (sh.invoke b.name arguments background io).shell.session.exiting = true)) ∧
    (∀ b : Builtin, b.Ignores → ∀ arguments, Signature.IsPlain arguments →
      arguments.head? = some "help" →
        sh.invoke b.name arguments background io = Builtin.done (io.write sh b.explanation)) ∧
    (∀ word : String, word.toList.head? ≠ some '-' →
      let path := sh.session.directory.join (Path.ofString word)
      (word ≠ "help" → ∀ found, sh.CanEnter path found → ∃ moved : Shell,
        moved.whereabouts = .of found ∧ sh.invoke "cd" [word] background io
          = ⟨(io.flush moved).map fun () => 0, io, moved⟩) ∧
      (word ≠ "help" → path.bytes.hasNul = false → ∀ found entries,
        sh.host.world.files.locate sh.host.directory path = .ok found →
        sh.host.world.files.entries? found.node = some entries →
        sh.invoke "dir" [word] background io = Builtin.settle (Builtin.done
          (io.write sh (Bytes.ofString (Builtin.listing (entries.map (·.1))))))) ∧
      (word = "help" → ∀ b ∈ [Builtin.cd, .dir],
        sh.invoke b.name [word] background io = Builtin.done (io.write sh b.explanation))) := by
  refine ⟨fun b hb arguments hplain hask => ⟨?_, ?_, ?_⟩, ?_, ?_⟩
  · rw [invoke_name, invoke_name, Builtin.run_of_plain hb hplain hask]
  · -- The two lines open the same files, and only the arguments of their commands differ.
    intro line bare redirections marked hline hbare
    rw [execute_of_parse hline, execute_of_parse hbare]
    rcases executeParsed_cases sh ⟨b.name :: arguments, redirections, marked⟩ with
      ⟨files, opened, hopens⟩ | ⟨files, r, cause, hrefused⟩
    · have hopens' : sh.Opens (⟨[b.name], redirections, marked⟩ : CommandLine).redirections
          files opened := hopens
      rw [executeParsed_of_opens hopens, executeParsed_of_opens hopens']
      simp only [CommandLine.name?, CommandLine.arguments, List.head?_cons, List.tail_cons,
        invoke_name, Builtin.run_of_plain hb hplain hask]
    · have hrefused' : sh.Refuses (⟨[b.name], redirections, marked⟩ :
          CommandLine).redirections files r cause := hrefused
      rw [executeParsed_of_refused hrefused, executeParsed_of_refused hrefused']
  · rintro rfl
    rw [invoke_name, Builtin.run_of_plain hb hplain hask]
    rfl
  · intro b hb arguments hplain hask
    have hread : b.read arguments = .usage := by
      rw [hb.read, Signature.read_of_plain hb.form hplain]
      exact if_pos hask
    rw [invoke_name, Builtin.run_of_usage hread]
  · intro word hword
    refine ⟨fun hask found hfound => ?_, fun hask hnul found entries hfound hentries => ?_, ?_⟩
    · obtain ⟨moved, hwhere, hrun⟩ := Builtin.run_cd_of_enterable hword hask hfound io
      exact ⟨moved, hwhere, (invoke_name .cd ..).trans hrun⟩
    · exact (invoke_name .dir ..).trans
        (Builtin.run_dir_of_located hword hask hnul hfound hentries io)
    · rintro rfl b hb
      have hread : b.read ["help"] = .usage := by
        simp only [List.mem_cons, List.not_mem_nil, or_false] at hb
        rcases hb with rfl | rfl <;> rfl
      rw [invoke_name, Builtin.run_of_usage hread]

end Shell

namespace Sample

/-- `quit` with an operand leaves, -/
theorem quit_operand : Builtin.quit.Ignores ∧ Signature.IsPlain ["now"] ∧
    (outside.invoke "quit" ["now"] false {}).shell.session.exiting = true :=
  have hignores : Builtin.quit.Ignores := by decide
  have hplain : Signature.IsPlain ["now"] := by simp [Signature.IsPlain]
  ⟨hignores, hplain, ((Shell.invoke_plain_operands outside false {}).1 .quit hignores ["now"]
    hplain (by decide)).2.2 rfl⟩

/-- but not with every operand that begins with no dash. -/
theorem quit_explained : ¬ ∀ arguments, Signature.IsPlain arguments →
    ∀ sh : Shell, (sh.invoke "quit" arguments false {}).shell.session.exiting = true := by
  intro hall
  have hstays : (outside.invoke "quit" ["help"] false {}).shell.session.exiting = false := by
    have hread : Builtin.quit.read ["help"] = .usage := rfl
    have hrun := Builtin.run_of_usage hread {} outside
    exact congrArg (·.shell.session.exiting) ((Shell.invoke_name .quit ..).trans hrun)
  rw [hall ["help"] (by simp [Signature.IsPlain]) outside] at hstays
  cases hstays

end Sample

end CommandShell
