import CommandShell.Proofs.BackgroundJobs
import CommandShell.Proofs.OneLineTexts
import CommandShell.Proofs.ProcessDirectory
import CommandShell.Proofs.RefusedPrograms
import CommandShell.Proofs.TrailingMarker

namespace CommandShell

/-!
# CommandReports — what commands and lines say when they fail

What is said about a failure is put together from fixed texts, from words of the line, from what the
system says, and in two places from something else: the pager of the settings, and the path of a
directory that `cd` has found. A line has no newline in it, so only these two could bring one in:

* `Signature.readFrom_speaksOf` — what reading arguments says is about these arguments;
* `Builtin.Reports`, `Builtin.perform_reports` — what built-in commands report;
* `Shell.GoesPlainly` — what is asked of the directory that a line goes to;
* `Shell.oneLine_of_execute_error` — the failure of a line is said on one line;
* `Shell.Starts.oneLine_of_rejected` — so is what is said about arguments.
-/

/-- The targets of directives that are interleaved with words are all there. -/
theorem Interleaving.mem_target {list tokens : List String} {redirections : List Redirection}
    {r : Redirection} (h : Interleaving list redirections tokens) (hr : r ∈ redirections) :
    r.target ∈ tokens := by
  induction h with
  | nil => cases hr
  | word first _ ih => exact List.mem_cons_of_mem _ (ih hr)
  | directive first _ ih =>
    rcases List.mem_cons.1 hr with rfl | hr
    · exact List.mem_cons_of_mem _ List.mem_cons_self
    · exact List.mem_cons_of_mem _ (List.mem_cons_of_mem _ (ih hr))

/-! ### Reading arguments -/

/-- What is read has to do with words of the list: operands are among them, and what is said is
    about one of them. -/
def Reading.SpeaksOf (reading : Reading) (list : List String) : Prop :=
  match reading with
  | .accepted operands => operands ⊆ list
  | .usage => True
  | .rejected message =>
    message = Signature.trailing ∨ ∃ word ∈ list, message = Signature.unrecognized word

/-- **Reading** further arguments has to do with these and with the operands taken so far. -/
theorem Signature.readFrom_speaksOf {form : OperandForm} {list taken arguments : List String}
    {asked ended : Bool} (htaken : taken ⊆ list) (harguments : arguments ⊆ list) :
    (readFrom form asked ended taken arguments).SpeaksOf list := by
  induction arguments generalizing asked ended taken with
  | nil =>
    unfold readFrom
    split_ifs
    · exact trivial
    · exact htaken
  | cons word rest ih =>
    obtain ⟨hword, hrest⟩ := List.cons_subset.1 harguments
    have hone : [word] ⊆ list := by simpa using hword
    have hmore : taken ++ [word] ⊆ list := List.append_subset.2 ⟨htaken, hone⟩
    have hrefused : (Reading.rejected (unrecognized word)).SpeaksOf list :=
      .inr ⟨word, hword, rfl⟩
    unfold readFrom
    split_ifs
    · exact ih htaken hrest
    · exact ih htaken hrest
    · exact .inl rfl
    · exact hrefused
    -- The word is an operand, or one too many.
    · cases form with
      | ignored => exact ih hmore hrest
      | «optional» => exact ih hone hrest
    · cases form with
      | ignored => exact ih hmore hrest
      | «optional» => exact hrefused

/-- So does reading the arguments of a built-in command. -/
theorem Builtin.read_speaksOf (b : Builtin) (arguments : List String) :
    (b.read arguments).SpeaksOf arguments := by
  by_cases hecho : b = .echo
  · subst hecho
    exact List.Subset.refl arguments
  · have hread : b.read arguments = b.signature.read arguments := by
      cases b
      case echo => exact absurd rfl hecho
      all_goals rfl
    rw [hread]
    exact Signature.readFrom_speaksOf (List.nil_subset _) (List.Subset.refl _)

/-- What is said about words without a newline is on one line, once its end is left out. -/
theorem Reading.SpeaksOf.oneLine {list : List String} {message : String}
    (h : (Reading.rejected message).SpeaksOf list) (hlist : ∀ word ∈ list, OneLine word) :
    OneLine (trimBlankEnd message) := by
  rcases h with rfl | ⟨word, hword, rfl⟩
  · unfold Signature.trailing
    exact OneLine.trimBlankEnd (.ofList (by decide))
  · have hsaid : OneLine ("Unrecognized argument: " ++ word) :=
      .append (.ofList (by decide)) (hlist word hword)
    have hend : trimBlankEnd (Signature.unrecognized word)
        = trimBlankEnd ("Unrecognized argument: " ++ word) := trimBlankEnd_append_newline _
    rw [hend]
    exact hsaid.trimBlankEnd

/-! ### Built-in commands -/

/-- What is reported where a stream fails. -/
def CommandError.IsStream (e : CommandError) : Prop := ∃ reason, e = .ofIo (.os reason)

theorem isStream_of_mapError {α : Type} {attempt : Except Errno α} {e : CommandError}
    (h : (attempt.mapError fun reason => CommandError.ofIo (.os reason)) = .error e) :
    e.IsStream := by
  cases attempt with
  | ok a => cases h
  | error reason =>
    cases h
    exact ⟨reason, rfl⟩

namespace Builtin

variable {sh : Shell} {io : Streams} {e : CommandError} {operands arguments : List String}

/-- What built-in commands report when they are performed. -/
inductive Reports (sh : Shell) (operands : List String) : Builtin → CommandError → Prop
  /-- A stream fails. -/
  | stream {b : Builtin} {e : CommandError} : e.IsStream → Reports sh operands b e
  /-- The operand of `cd` leads nowhere. -/
  | nowhere {target : String} {cause : IoError} : operands.head? = some target →
      sh.host.world.files.canonicalize sh.host.directory
        (sh.session.directory.join (Path.ofString target)) = .error cause →
      Reports sh operands .cd ((CommandError.ofIo cause).within ("cd: " ++ target))
  /-- The shell's process cannot go where it leads. -/
  | closed {target : String} {found : Location} {cause : IoError} :
      operands.head? = some target →
      sh.host.world.files.canonicalize sh.host.directory
        (sh.session.directory.join (Path.ofString target)) = .ok found →
      sh.host.changeDirectory found.path = .error cause →
      Reports sh operands .cd
        ((CommandError.ofIo cause).within ("cd: can't chdir to " ++ found.path.display))
  /-- The directory cannot be listed. -/
  | unlisted {cause : IoError} :
      sh.host.world.files.readDirectory sh.host.directory
        (sh.session.directory.join (Path.ofString (operands.head?.getD "."))) = .error cause →
      Reports sh operands .dir
        ((CommandError.ofIo cause).within ("dir: cannot open " ++ operands.head?.getD "."))
  /-- There is no pager. -/
  | unpaged {request : Launch} {cause : IoError} : sh.host.spawn request = .error cause →
      Reports sh operands .help (pagerFailure sh cause)

theorem done_isStream {sh' : Shell} {bytes : Bytes}
    (h : (done (io.write sh' bytes)).result = .error e) : e.IsStream :=
  isStream_of_mapError (done_error h)

theorem changeDirectory_reports (h : (changeDirectory operands.head? io sh).result = .error e) :
    Reports sh operands .cd e := by
  rcases hoperand : operands.head? with _ | target
  · rw [hoperand] at h
    exact .stream (done_isStream h)
  · simp only [hoperand, changeDirectory, goTo] at h
    -- The first of the two requests that fails is the one that is reported.
    rcases hfound : sh.host.world.files.canonicalize sh.host.directory
      (sh.session.directory.join (Path.ofString target)) with cause | found
    · simp only [hfound] at h
      cases h
      exact .nowhere hoperand hfound
    · rcases hhost : sh.host.changeDirectory found.path with cause | host
      · simp only [hfound, hhost] at h
        cases h
        exact .closed hoperand hfound hhost
      · simp only [hfound, hhost] at h
        cases h

theorem listDirectory_reports (h : (listDirectory operands.head? io sh).result = .error e) :
    Reports sh operands .dir e := by
  unfold listDirectory at h
  dsimp only at h
  split at h
  · rename_i hlist
    cases h
    exact .unlisted hlist
  · exact .stream (done_isStream h)

theorem awaitLine_isStream (h : (awaitLine io sh).result = .error e) : e.IsStream := by
  unfold awaitLine at h
  split at h
  · rename_i hwrite
    cases h
    exact isStream_of_mapError (congrArg Prod.fst hwrite)
  · split at h
    · rename_i hflush
      cases h
      exact isStream_of_mapError hflush
    · exact isStream_of_mapError (done_error h)

theorem showManual_reports (h : (showManual io sh).result = .error e) :
    Reports sh operands .help e := by
  rw [showManual_eq] at h
  split at h
  · rename_i hflush
    cases h
    exact .stream (isStream_of_mapError hflush)
  · split at h
    · rename_i hspawn
      cases h
      exact .unpaged hspawn
    · rename_i hspawn
      -- A pager that was started can be waited for.
      obtain ⟨status, host, hwait⟩ := Host.wait_of_spawn hspawn
      rw [hwait] at h
      cases h

/-- **What is reported** by a built-in command that is performed. -/
theorem perform_reports {b : Builtin} (h : (b.perform operands io sh).result = .error e) :
    Reports sh operands b e := by
  cases b with
  | cd => exact changeDirectory_reports h
  | dir => exact listDirectory_reports h
  | help => exact showManual_reports h
  | pause => exact .stream (awaitLine_isStream h)
  | quit => cases h
  | clr | environ | echo | jobs => exact .stream (done_isStream h)

/-- Called by a line, it reports that, or that its output cannot be passed on. -/
theorem run_reports {b : Builtin} (h : (b.run arguments io sh).result = .error e) :
    e.IsStream ∨ ∃ operands, b.read arguments = .accepted operands ∧ Reports sh operands b e := by
  unfold run at h
  rcases hread : b.read arguments with operands | _ | message
  · simp only [hread] at h
    by_cases hhelp : b = .help
    · rw [if_pos hhelp] at h
      exact .inr ⟨operands, rfl, perform_reports h⟩
    · rw [if_neg hhelp] at h
      unfold settle at h
      split at h
      · exact .inr ⟨operands, rfl, perform_reports h⟩
      · rcases hflush : (b.perform operands io sh).streams.flush
          (b.perform operands io sh).shell with e' | ⟨⟩
        · rw [hflush] at h
          cases h
          exact .inl (isStream_of_mapError hflush)
        · rw [hflush] at h
          cases h
  · simp only [hread] at h
    exact .inl (done_isStream h)
  · simp only [hread] at h
    cases h

end Builtin

/-! ### What is said -/

namespace CommandError

variable {e : CommandError} {cause : IoError} {context : String}

/-- A failed request that was reported without a context. -/
theorem oneLine_ofIo (h : cause.IsPlain) : OneLine (ofIo cause).classify.message := by
  show OneLine (": ".intercalate [cause.message])
  rw [String.intercalate_singleton]
  exact h.oneLine

theorem IsStream.oneLine (h : e.IsStream) : OneLine e.classify.message := by
  obtain ⟨reason, rfl⟩ := h
  exact oneLine_ofIo (IoError.isPlain_os reason)

/-- A failed request that was reported in a context. -/
theorem oneLine_within (h : cause.IsPlain) (hcontext : OneLine context) :
    OneLine ((ofIo cause).within context).classify.message := by
  refine OneLine.intercalate (.ofList (by decide)) fun text htext => ?_
  have htexts : text = context ∨ text = cause.message := by
    simpa [within, ofIo] using htext
  rcases htexts with rfl | rfl
  · exact hcontext
  · exact h.oneLine

end CommandError

/-- A child is refused for reasons that come with no text of their own. -/
theorem Host.isPlain_of_spawn {h : Host} {request : Launch} {cause : IoError}
    (hspawn : h.spawn request = .error cause) : cause.IsPlain := by
  rcases Host.spawn_eq_error_iff.1 hspawn with ⟨-, rfl⟩ | ⟨-, reason, -, rfl⟩
  · exact fun _ h => by cases h
  · exact IoError.isPlain_os reason

/-- So are files of directives. -/
theorem Redirection.isPlain_of_openIn {r : Redirection} {start : Location} {directory : Path}
    {files : FileSystem} {cause : IoError}
    (h : r.openIn mask start directory files = .error cause) : cause.IsPlain := by
  have hmap : ∀ {α β : Type} {attempt : Except IoError α} {f : α → β},
      attempt.map f = .error cause → attempt = .error cause := by
    intro α β attempt f hattempt
    cases attempt with
    | error reason =>
      cases hattempt
      rfl
    | ok => cases hattempt
  obtain ⟨_ | _ | _, target⟩ := r <;> exact FileSystem.isPlain_of_guarded (hmap h)

theorem Direction.oneLine_operator (direction : Direction) : OneLine direction.operator := by
  cases direction <;> exact .ofList (by decide)

/-- The failure of a directive names its file as it was written. -/
theorem Redirection.oneLine_refusal {r : Redirection} {cause : IoError}
    (htarget : OneLine r.target) (hcause : cause.IsPlain) :
    OneLine (r.refusal cause).message := by
  have hpath : OneLine r.path.display := Path.oneLine_display_ofString htarget
  have hsaid : ∀ {front : String}, OneLine front →
      OneLine (front ++ r.path.display ++ ": " ++ cause.message) := fun hfront =>
    .append (.append (.append hfront hpath) (.ofList (by decide))) hcause.oneLine
  obtain ⟨direction, target⟩ := r
  cases direction with
  | input => exact hsaid (.ofList (by decide))
  | truncate | append => exact hsaid (.ofList (by decide))

/-- What a built-in command reports about operands on one line is on one line. -/
theorem Builtin.Reports.oneLine {sh : Shell} {operands : List String} {b : Builtin}
    {e : CommandError} (h : Reports sh operands b e)
    (hoperands : ∀ word ∈ operands, OneLine word) (hpager : OneLine sh.session.help.pager)
    (hgoes : ∀ target found, b = .cd → operands.head? = some target →
      sh.host.world.files.canonicalize sh.host.directory
        (sh.session.directory.join (Path.ofString target)) = .ok found →
      Bytes.newline ∉ found.path.bytes) : OneLine e.classify.message := by
  have hhead : ∀ target, operands.head? = some target → OneLine target := fun target htarget =>
    hoperands target (List.mem_of_head? htarget)
  cases h with
  | stream hstream => exact hstream.oneLine
  | nowhere hoperand hfound =>
    exact CommandError.oneLine_within (FileSystem.isPlain_of_guarded hfound)
      (.append (.ofList (by decide)) (hhead _ hoperand))
  | closed hoperand hfound hmove =>
    exact CommandError.oneLine_within (FileSystem.isPlain_of_guarded hmove)
      (.append (.ofList (by decide)) (Path.oneLine_display (hgoes _ _ rfl hoperand hfound)))
  | unlisted hlist =>
    refine CommandError.oneLine_within (FileSystem.isPlain_of_guarded hlist)
      (.append (.ofList (by decide)) ?_)
    rcases hoperand : operands.head? with _ | target
    · exact .ofList (by decide)
    · exact hhead target hoperand
  | unpaged hspawn =>
    exact CommandError.oneLine_within (Host.isPlain_of_spawn hspawn)
      (.append (.append (.ofList (by decide)) hpager) (.ofList (by decide)))

namespace ProgramCommand

/-- The failure of a program names it as it was typed. -/
theorem oneLine_of_run_error {c : ProgramCommand} {io : Streams} {sh : Shell} {e : CommandError}
    (h : (c.run io sh).result = .error e) (hname : OneLine c.name) :
    OneLine e.classify.message := by
  have hcolon : OneLine ": " := .ofList (by decide)
  have hlaunch : ∀ {cause : IoError}, cause.IsPlain →
      OneLine (Failure.launch c.name cause).message := fun hcause =>
    .append (.append hname hcolon) hcause.oneLine
  have hspawned : ∀ {cause : IoError}, cause.IsPlain →
      OneLine (Failure.spawn c.name cause).message := fun hcause =>
    .append (.append (.append (.ofList (by decide)) hname) hcolon) hcause.oneLine
  have hcourse := c.run_course io sh
  generalize c.run io sh = o at hcourse h
  cases hcourse with
  | missing =>
    cases h
    exact hlaunch fun _ h => by cases h
  | stuck hflush =>
    cases h
    exact CommandError.IsStream.oneLine (isStream_of_mapError hflush)
  | refused _ hspawn =>
    cases h
    show OneLine (c.refusal _).message
    unfold refusal
    split_ifs
    · exact hlaunch (Host.isPlain_of_spawn hspawn)
    · exact hspawned (Host.isPlain_of_spawn hspawn)
  | recorded => cases h
  | awaited _ hspawn _ hwait =>
    -- A child that was started can be waited for.
    obtain ⟨status, host, hwaited⟩ := Host.wait_of_spawn hspawn
    dsimp only at h
    rcases hwait with ⟨status', -, rfl⟩ | ⟨cause, hcause, -⟩
    · cases h
    · rw [hwaited] at hcause
      cases hcause

end ProgramCommand

/-! ### Lines -/

namespace Shell

variable {sh : Shell} {line : String} {io : Streams} {c : StartedCommand} {failure : Failure}

/-- Where the line goes to a directory, the path of that has no newline. -/
def GoesPlainly (sh : Shell) (line : String) : Prop :=
  ∀ c target found, sh.Starts line c → c.name = Builtin.cd.name →
    Builtin.cd.read c.arguments = .accepted [target] →
    c.files.canonicalize sh.host.directory
      (sh.session.directory.join (Path.ofString target)) = .ok found →
    Bytes.newline ∉ found.path.bytes

/-- The words of a command line are words of the line, and so are the targets of its directives. -/
theorem isWord_of_parse {parsed : CommandLine} (h : CommandLine.parse line = .ok (some parsed)) :
    (∀ word ∈ parsed.words, IsWord word) ∧ ∀ r ∈ parsed.redirections, IsWord r.target := by
  obtain ⟨-, hread⟩ := CommandLine.parse_eq_some_iff.1 h
  obtain ⟨hinter, -, -⟩ := CommandLine.ofWords_eq_ok_iff.1 hread
  refine ⟨fun word hword => ?_, fun r hr => ?_⟩
  · exact isWord_of_mem_words (hinter.mem (List.mem_append_left _ hword))
  · exact isWord_of_mem_words (hinter.mem_target hr)

/-- The name and the arguments of a command are on one line. -/
theorem Starts.oneLine (h : sh.Starts line c) : ∀ word ∈ c.name :: c.arguments, OneLine word :=
  fun word hword => .of_isWord ((isWord_of_parse h.reads).1 word hword)

/-- What is said about arguments is on one line. -/
theorem Starts.oneLine_of_rejected (h : sh.Starts line c) {b : Builtin} {message : String}
    (hread : b.read c.arguments = .rejected message) : OneLine (trimBlankEnd message) := by
  have hspeaks := b.read_speaksOf c.arguments
  rw [hread] at hspeaks
  exact hspeaks.oneLine fun word hword => h.oneLine word (List.mem_cons_of_mem _ hword)

/-- So is the failure of a command. -/
theorem Starts.oneLine_of_error (h : sh.Starts line c) (hpager : OneLine sh.session.help.pager)
    (hgoes : sh.GoesPlainly line) {e : CommandError}
    (hresult : (sh.outcomeOf c io).result = .error e) : OneLine e.classify.message := by
  obtain ⟨hname, harguments⟩ := List.forall_mem_cons.1 h.oneLine
  rcases hbuiltin : Builtin.ofName? c.name with _ | b
  · rw [outcomeOf_program hbuiltin] at hresult
    exact ProgramCommand.oneLine_of_run_error hresult hname
  · rw [outcomeOf_builtin hbuiltin] at hresult
    rcases Builtin.run_reports hresult with hstream | ⟨operands, hread, hreports⟩
    · exact hstream.oneLine
    · have hoperands := b.read_speaksOf c.arguments
      rw [hread] at hoperands
      refine hreports.oneLine (fun word hword => harguments word (hoperands hword)) hpager ?_
      rintro target found rfl hoperand hfound
      -- `cd` has no other operand than the one it goes to.
      rcases Builtin.read_cd_cases hread with rfl | ⟨target', rfl⟩
      · cases hoperand
      · cases hoperand
        exact hgoes c target found h (eq_name_of_ofName? hbuiltin) hread hfound

/-- **The failure of a line** is said on one line. -/
theorem oneLine_of_execute_error (h : (sh.execute line io).result = .error failure)
    (hpager : OneLine sh.session.help.pager) (hgoes : sh.GoesPlainly line) :
    OneLine failure.message := by
  rcases sh.starts_or_not line with ⟨c, hstarts⟩ | ⟨result, files, hnothing⟩
  · rw [execute_of_starts hstarts] at h
    rcases hresult : (sh.outcomeOf c io).result with e | code
    · rw [hresult] at h
      cases h
      exact hstarts.oneLine_of_error hpager hgoes hresult
    · rw [hresult] at h
      cases h
  · rw [hnothing.execute_eq io] at h
    subst h
    cases hnothing with
    | unreadable hread =>
      obtain ⟨direction, rfl⟩ := CommandLine.parse_error hread
      exact .append (.append (.ofList (by decide)) direction.oneLine_operator) (.ofList (by decide))
    | refused hread hrefused =>
      obtain ⟨⟨before, after, opened, hsplit, -⟩, hopen⟩ := hrefused
      obtain ⟨-, htargets⟩ := isWord_of_parse hread
      rw [hsplit] at htargets
      have htarget := htargets _ (List.mem_append_right _ List.mem_cons_self)
      exact Redirection.oneLine_refusal (.of_isWord htarget)
        (Redirection.isPlain_of_openIn hopen)

end Shell

end CommandShell
