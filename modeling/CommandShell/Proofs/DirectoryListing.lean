import CommandShell.Proofs.CommandReports
import CommandShell.Proofs.EncodedTexts
import CommandShell.Proofs.ListedNames
import CommandShell.Proofs.StartedCommand

namespace CommandShell

/-!
# DirectoryListing — what a line with `dir` writes

The files of the directives are opened before the directory is read, and the listing is written after
that:

* `Builtin.ofString_listing` — a listing has a line for the directory, one for the directory above
  and one for every entry;
* `Outlet.held`, `Outlet.held_write` — the bytes that an outlet holds are followed by those that are
  written to it;
* `Redirection.OpenedTargets.output_spec` — where the output of a line goes;
* `Shell.Says` — a line writes bytes and does nothing else once its files are opened;
* `Shell.lists_after_opening` — what a line with `dir` does.
-/

/-! ### Listings -/

namespace Bytes

theorem ofString_append (front back : String) :
    ofString (front ++ back) = ofString front ++ ofString back := by
  simp only [ofString, String.toList_append, Utf8.encode, List.flatMap_append]

theorem ofString_join (texts : List String) :
    ofString (String.join texts) = texts.flatMap ofString := by
  induction texts with
  | nil => rfl
  | cons text rest ih => rw [String.join_cons, ofString_append, ih, List.flatMap_cons]

end Bytes

namespace Builtin

/-- The line of a name in a listing: what of it is no text is replaced. -/
def entryLine (name : Bytes) : Bytes := Bytes.ofString name.toStringLossy ++ [Bytes.newline]

/-- The bytes of a listing, a line for every name. -/
def lines (names : List Bytes) : Bytes := names.flatMap entryLine

theorem ofString_listing (names : List Bytes) :
    Bytes.ofString (listing names) = lines (Path.here :: Path.above :: names) := by
  have hnewline : Bytes.ofString "\n" = [Bytes.newline] := by decide
  have hfirst : Bytes.ofString ".\n..\n" = entryLine Path.here ++ entryLine Path.above := by
    decide +kernel
  rw [listing, Bytes.ofString_append, Bytes.ofString_join, hfirst, List.flatMap_map]
  simp only [Bytes.ofString_append, hnewline, lines, List.flatMap_cons, List.append_assoc]
  rfl

variable {operand : Option String} {sh : Shell} {files : FileSystem}

/-- A directory that can be read is listed. -/
theorem listDirectory_ok {names : List Bytes}
    (h : files.readDirectory sh.host.directory
      (sh.session.directory.join (Path.ofString (operand.getD "."))) = .ok names) (io : Streams) :
    listDirectory operand io (sh.withFiles files)
      = done (io.write (sh.withFiles files) (Bytes.ofString (listing names))) := by
  simp only [listDirectory, Shell.withFiles, Host.withFiles, h]

/-- One that cannot be read is not, and nothing is written. -/
theorem listDirectory_refused {cause : IoError}
    (h : files.readDirectory sh.host.directory
      (sh.session.directory.join (Path.ofString (operand.getD "."))) = .error cause)
    (io : Streams) :
    listDirectory operand io (sh.withFiles files)
      = ⟨.error ((CommandError.ofIo cause).within ("dir: cannot open " ++ operand.getD ".")), io,
          sh.withFiles files⟩ := by
  simp only [listDirectory, Shell.withFiles, Host.withFiles, h]

end Builtin

/-! ### Outlets -/

/-- Bytes for which there is room are put after those that were written. -/
theorem Capture.put_written {c : Capture} {bytes : Bytes} (h : (c.put bytes).1 = .ok ()) :
    (c.put bytes).2.written = c.written ++ bytes := by
  unfold Capture.put at h ⊢
  rcases hroom : c.room with _ | ⟨room, reason⟩
  · rfl
  · simp only [hroom] at h ⊢
    split_ifs at h with hfull
    rw [List.take_of_length_le (Nat.le_of_not_lt hfull)]

namespace Outlet

/-- The bytes that an outlet holds. Devices hold none, and what is discarded is held nowhere. -/
def held (outlet : Outlet) (w : World) : Option Bytes :=
  match outlet with
  | .discard => none
  | .memory capture => some capture.written
  | .terminal => some w.terminal.output.written
  | .diagnostics => some w.terminal.errors.written
  | .file handle => w.files.bytes? handle.node

variable {outlet : Outlet} {w : World} {bytes : Bytes} {handle : Handle}

/-- Devices and directories hold nothing, also after something was written to them. -/
theorem held_write_of_none (h : w.files.bytes? handle.node = none) (bytes : Bytes) :
    ((Outlet.file handle).write w bytes).2.1.held ((Outlet.file handle).write w bytes).2.2
      = none := by
  have hfiles : ((Outlet.file handle).write w bytes).2.2.files = w.files := by
    rcases (Outlet.file handle).write_files w bytes with
      hsame | ⟨id, mode, content, _, hid, hfile, -⟩
    · exact hsame
    · cases hid
      rw [FileSystem.bytes?_of_file hfile] at h
      cases h
  have hopen := (Outlet.file handle).write_openNode? w bytes
  rcases hafter : ((Outlet.file handle).write w bytes).2.1 with _ | _ | _ | _ | handle'
  case file =>
    rw [hafter] at hopen
    rw [held, hfiles, Option.some.inj hopen, h]
  all_goals
    rw [hafter] at hopen
    cases hopen

/-- **Writing.** What an outlet takes comes after the bytes that it held; a file has to be written to
    at its end for that. -/
theorem held_write (h : (outlet.write w bytes).1 = .ok ())
    (hend : ∀ handle, outlet = .file handle → handle.AtEnd w.files) :
    (outlet.write w bytes).2.1.held (outlet.write w bytes).2.2
      = (outlet.held w).map (· ++ bytes) := by
  cases outlet with
  | discard => rfl
  | memory | terminal | diagnostics => exact congrArg some (Capture.put_written h)
  | file handle =>
    rcases hbytes : w.files.bytes? handle.node with _ | content
    · rw [held_write_of_none hbytes, held, hbytes]
      rfl
    · obtain ⟨mode, hfile⟩ := FileSystem.exists_file_of_bytes? hbytes
      rw [write_eq_at_end hfile (hend handle rfl), held, held, hbytes]
      exact FileSystem.bytes?_of_file (FileSystem.node?_setNode_self hfile _)

end Outlet

/-! ### Where the output of a line goes -/

namespace Redirection

open FileSystem

variable {mask : Nat} {start : Location} {directory : Path} {before fs : FileSystem}
  {targets : List (Redirection × NodeId)} {made : List (NodeId × Bytes)} {opened : OpenedFiles}
  {rs : List Redirection} {r : Redirection}

/-- The path of the directive leads to a file without bytes, or to a device. -/
def LeavesEmpty (r : Redirection) (start : Location) (directory : Path) (fs : FileSystem) : Prop :=
  ∃ id, r.LeadsTo start directory fs id ∧
    (fs.bytes? id = some [] ∨ ∃ kind, fs.node? id = some (.device kind))

namespace OpenedTargets

/-- A file that was opened to be emptied is empty. -/
theorem leavesEmpty (h : OpenedTargets mask start directory before targets made fs opened)
    (hdirectives : targets.map (·.1) = rs) (hmem : r ∈ rs) (hr : r.direction = .truncate) :
    r.LeavesEmpty start directory fs := by
  rw [← hdirectives] at hmem
  obtain ⟨⟨r, id⟩, hopened, rfl⟩ := List.mem_map.1 hmem
  refine ⟨id, h.leads _ hopened, (h.empty_or_device hopened hr).imp_left ?_⟩
  rintro ⟨mode, hfile⟩
  exact bytes?_of_file hfile

theorem map_fst_lastOpened? (targets : List (Redirection × NodeId)) :
    (lastOpened? true targets).map (·.1) = lastOutput? (targets.map (·.1)) := by
  unfold lastOpened? lastOutput?
  rw [List.filter_map, List.getLast?_map]
  simp [Function.comp_def]

/-- The file of the last directive for standard output takes its place. What is written to it goes to
    its end, and if it was to be emptied, it is empty. -/
theorem output_spec (h : OpenedTargets mask start directory before targets made fs opened)
    (hdirectives : targets.map (·.1) = rs) (hlast : lastOutput? rs = some r) :
    ∃ handle, opened.output = some handle ∧ r.LeadsTo start directory fs handle.node ∧
      ∀ content, fs.bytes? handle.node = some content →
        handle.AtEnd fs ∧ (r.direction = .truncate → content = []) := by
  rw [← hdirectives, ← map_fst_lastOpened?] at hlast
  obtain ⟨⟨r, id⟩, hopened, rfl⟩ := Option.map_eq_some_iff.1 hlast
  have houtput := h.output_eq
  rw [hopened, Option.map_some] at houtput
  have hmem := List.mem_filter.1 (List.mem_of_getLast? hopened)
  have hkind : r.isOutput = true := of_decide_eq_true hmem.2
  have hempty : ∀ content, fs.bytes? id = some content → r.direction = .truncate → content = [] := by
    intro content hbytes hr
    rcases h.empty_or_device hmem.1 hr with ⟨mode, hfile⟩ | ⟨kind, hdevice⟩
    · rw [bytes?_of_file hfile] at hbytes
      exact (Option.some.inj hbytes).symm
    · rw [bytes?, hdevice] at hbytes
      cases hbytes
  refine ⟨_, houtput, h.leads _ hmem.1, fun content hbytes => ⟨?_, hempty content hbytes⟩⟩
  rcases direction_of_output hkind with hr | hr
  · exact .inr ⟨rfl, hempty content hbytes hr ▸ hbytes⟩
  · exact .inl (decide_eq_true hr)

/-- Without such a directive, no file does. -/
theorem output_eq_none (h : OpenedTargets mask start directory before targets made fs opened)
    (hdirectives : targets.map (·.1) = rs) (hnone : lastOutput? rs = none) :
    opened.output = none := by
  rw [← hdirectives, ← map_fst_lastOpened?, Option.map_eq_none_iff] at hnone
  rw [h.output_eq, hnone, Option.map_none]

end OpenedTargets

end Redirection

/-! ### Lines that write -/

namespace Shell

open FileSystem Redirection

variable {sh : Shell} {line : String} {c : StartedCommand} {io : Streams} {operands : List String}

/-- The outcome of a line whose command writes bytes once the files of the line are opened, and does
    nothing else: they go to the file of the last directive for standard output, or to the caller. -/
structure Says (sh : Shell) (c : StartedCommand) (io : Streams) (o : Outcome Failure)
    (said : Bytes) : Prop where
  /-- Nothing but the bytes is new. -/
  shell : o.shell = ((c.opened.streams io).write (sh.withFiles c.files) said).2.2
  /-- If the output takes them, the line succeeds. -/
  succeeds : (c.opened.streams io).output.Takes (sh.withFiles c.files).host.world said →
    o.result = .ok 0
  /-- Without a directive, the caller gets them after what it has got. A file that the caller hands
      over has to be written to at its end for that. -/
  to_caller : lastOutput? c.redirections = none →
    (io.output.write (sh.withFiles c.files).host.world said).1 = .ok () →
    (∀ handle, io.output = .file handle → handle.AtEnd c.files) →
    o.streams.output.held o.shell.host.world
      = (io.output.held (sh.withFiles c.files).host.world).map (· ++ said)
  /-- With one, a regular file gets them at its end, the caller gets nothing, and the line
      succeeds. -/
  to_file : ∀ r, lastOutput? c.redirections = some r → o.streams.output = io.output ∧
    o.shell.host.world.terminal = sh.host.world.terminal ∧
    ∃ id, r.LeadsTo sh.host.directory sh.session.directory c.files id ∧
      ∀ content, c.files.bytes? id = some content →
        o.result = .ok 0 ∧ (r.direction = .truncate → content = []) ∧
        o.shell.host.world.files.bytes? id = some (content ++ said)

/-- A command that writes and has that passed on says what it writes. -/
theorem Starts.writesTo {said : Bytes} (h : sh.Starts line c)
    (hwrites : sh.outcomeOf c io
      = Builtin.settle (Builtin.done ((c.opened.streams io).write (sh.withFiles c.files) said))) :
    sh.Says c io (sh.execute line io) said := by
  obtain ⟨targets, made, htargets, hdirectives⟩ := h.opens.targets
  set streams := c.opened.streams io
  set opened := sh.withFiles c.files
  have hshell : (sh.execute line io).shell = (streams.write opened said).2.2 := by
    rw [execute_of_starts h, hwrites]
    exact Builtin.settle_shell _
  have hstreams : (sh.execute line io).streams
      = c.opened.restore io (streams.write opened said).2.1 := by
    rw [execute_of_starts h, hwrites, Builtin.settle_streams]
    rfl
  have hok : streams.output.Takes opened.host.world said → (sh.execute line io).result = .ok 0 := by
    intro htakes
    rw [execute_of_starts h, hwrites, Builtin.settle_write_of_takes htakes]
    rfl
  refine ⟨hshell, hok, fun hnone hput hend => ?_, fun r hlast => ?_⟩
  · -- The command has the outlet of the caller, and hands it back.
    have houtput : streams.output = io.output := by
      show (c.opened.output.map Outlet.file).getD io.output = _
      rw [htargets.output_eq_none hdirectives hnone]
      rfl
    rw [hstreams, hshell, OpenedFiles.restore, htargets.output_eq_none hdirectives hnone]
    have hheld := Outlet.held_write hput hend
    rw [← houtput] at hheld ⊢
    exact hheld
  · -- It has a file, and the outlet of the caller is handed back as it was.
    obtain ⟨handle, hhandle, hleads, hfile⟩ := htargets.output_spec hdirectives hlast
    have houtput : streams.output = .file handle := by
      show (c.opened.output.map Outlet.file).getD io.output = _
      rw [hhandle]
      rfl
    have hworld : (sh.execute line io).shell.host.world
        = ((Outlet.file handle).write opened.host.world said).2.2 := by
      rw [hshell, ← houtput]
      rfl
    refine ⟨?_, ?_, handle.node, hleads, fun content hbytes => ?_⟩
    · rw [hstreams, OpenedFiles.restore, hhandle]
      rfl
    · rw [hworld, Outlet.write_file_terminal]
      rfl
    · obtain ⟨hend, hempty⟩ := hfile content hbytes
      obtain ⟨mode, hnode⟩ := exists_file_of_bytes? hbytes
      refine ⟨hok (houtput ▸ Outlet.takes_of_atEnd hnode hend said), hempty, ?_⟩
      rw [hworld, Outlet.write_eq_at_end hnode hend]
      exact bytes?_of_file (node?_setNode_self hnode _)

/-! ### `dir` -/

/-- **Listing.** A line with `dir` opens the files of its directives first, and then reads the
    directory of its operand, or that of the session:

* if it could be read before, it can be still. The line writes a line for the directory, one for the
  directory above, and one for each of its entries, and does nothing else. The entries are those that
  it had, and the files that the directives make in it; if no two had one name, no two have now;
* otherwise the line fails with a failure that does not end the session, and writes nothing. The
  files that were to be emptied are empty. -/
theorem lists_after_opening (h : sh.Starts line c) (hname : c.name = Builtin.dir.name)
    (hread : Builtin.dir.read c.arguments = .accepted operands) (io : Streams) :
    let shown := operands.head?.getD "."
    let path := sh.session.directory.join (Path.ofString shown)
    let start := sh.host.directory
    let before := sh.host.world.files
    (∀ names, before.readDirectory start path = .ok names → ∃ found entries made,
      before.locate start path = .ok found ∧ c.files.locate start path = .ok found ∧
      c.files.entries? found.node = some entries ∧ entries.map (·.1) = names ++ made ∧
      (∀ name, name ∈ made ↔ ∃ r ∈ c.redirections,
        r.Makes start sh.session.directory before found.node name) ∧
      (names.Nodup → (entries.map (·.1)).Nodup) ∧
      sh.Says c io (sh.execute line io)
        (Builtin.lines (Path.here :: Path.above :: entries.map (·.1)))) ∧
    (∀ cause, before.readDirectory start path = .error cause → ∃ cause' failure,
      c.files.readDirectory start path = .error cause' ∧
      failure = Failure.builtin ⟨["dir: cannot open " ++ shown], cause'.message⟩ ∧
      failure.isFatal = false ∧
      sh.execute line io = ⟨.error failure, io, sh.withFiles c.files⟩ ∧
      (∀ r ∈ c.redirections, r.direction = .truncate →
        r.LeavesEmpty start sh.session.directory c.files)) := by
  intro shown path start before
  obtain ⟨targets, made, htargets, hdirectives⟩ := h.opens.targets
  have houtcome : sh.outcomeOf c io = Builtin.settle
      (Builtin.listDirectory operands.head? (c.opened.streams io) (sh.withFiles c.files)) := by
    rw [outcomeOf_builtin (hname ▸ ofName?_name .dir), Builtin.run, hread]
    rfl
  refine ⟨fun names hnames => ?_, fun cause hcause => ?_⟩
  · -- What the command reads is the table that the directives leave.
    obtain ⟨found, old, entries, hfound, hold, rfl, hfound', hentries, hsplit, hafter⟩ :=
      htargets.table.readDirectory_ok hnames
    refine ⟨found, entries, madeIn made found.node, hfound, hfound', hentries, hsplit,
      fun name => h.opens.mem_madeIn_iff htargets.table hold, fun hdistinct => ?_, h.writesTo ?_⟩
    · rw [hsplit]
      exact htargets.table.nodup_names hold hdistinct
    · rw [houtcome, Builtin.listDirectory_ok hafter, Builtin.ofString_listing]
  · obtain ⟨cause', hafter⟩ := htargets.table.readDirectory_error hcause
    refine ⟨cause', _, hafter, rfl, rfl, ?_,
      fun r hr hempties => htargets.leavesEmpty hdirectives hr hempties⟩
    rw [execute_of_starts h, houtcome, Builtin.listDirectory_refused hafter]
    exact congrArg (Outcome.mk _ · _) (c.opened.restore_streams io)

end Shell

/-! ### A listing that names its own file -/

namespace Sample

open Shell

/-- A line that lists the directory into a new file in it. -/
def selfListing : StartedCommand :=
  { name := "dir"
    arguments := []
    redirections := [⟨.truncate, "b"⟩]
    background := false
    files :=
      (files.addEntry here.node (Bytes.ofString "b")
        (.file (FileSystem.outputMode Machine.mask) [])).1
    opened := { output := some ⟨4, 0, false⟩ } }

/-- The name of the new file. -/
theorem isPlainIn_listing : (Path.ofString "/d").IsPlainIn (Bytes.ofString "b") := by
  constructor <;> decide

theorem starts_selfListing : shell.Starts "dir > b" selfListing where
  reads := by decide +kernel
  opens := by
    have hopen : files.openOutput Machine.mask .root (shell.session.directory.join ⟨_⟩) true
        = .ok (selfListing.files, 4) :=
      FileSystem.openOutput_vacant isDirectoryAt_here isPlainIn_listing rfl true
    exact .cons (congrArg (·.map fun o => (o.1, (⟨o.2, 0, false⟩ : Handle))) hopen) .nil

/-- A dot stays in the directory. -/
theorem locate_dot : files.locate .root (shell.session.directory.join (Path.ofString "."))
    = .ok here := by
  have hsegments : (shell.session.directory.join (Path.ofString ".")).segments
      = [[], Bytes.ofString "d", Path.here] := by decide +kernel
  refine FileSystem.locate_eq_ok.2 ⟨by decide, ?_⟩
  rw [hsegments]
  calc
    _ = files.walk FileSystem.linkLimit .root [Bytes.ofString "d", Path.here] :=
      FileSystem.walk_blank rfl rfl _
    _ = files.walk FileSystem.linkLimit here [Path.here] :=
      FileSystem.walk_entry rfl (by decide) (by decide) (by decide) rfl (fun _ h => by cases h) _
    _ = files.walk FileSystem.linkLimit here [] := FileSystem.walk_blank rfl rfl _
    _ = .ok here := FileSystem.walk_nil ..

/-- The file is there once the directive is opened. -/
theorem locateNew_listing :
    selfListing.files.locateNew .root (shell.session.directory.join (Path.ofString "b"))
      = .ok (.existing 4) := by
  have hstraight : selfListing.files.Straight here :=
    .child .root rfl rfl rfl (by decide) (by decide) (by decide) (fun _ h => by cases h)
  have hat : selfListing.files.IsDirectoryAt .root (Path.ofString "/d") here
      [(Bytes.ofString "a", 3), (Bytes.ofString "b", 4)] :=
    ⟨by decide, hstraight.canonicalize rfl (by decide) (by decide) .root, rfl⟩
  have hlookup : FileSystem.lookup [(Bytes.ofString "a", 3), (Bytes.ofString "b", 4)]
      (Bytes.ofString "b") = some 4 := by decide
  refine (FileSystem.locateNew_plain hat isPlainIn_listing fun id hid target htarget => ?_).trans ?_
  · rw [hlookup] at hid
    cases hid
    cases htarget
  · rw [hlookup]

/-- The file is there when the directory is read, so it is listed. -/
theorem self_listed :
    shell.Starts "dir > b" selfListing ∧ selfListing.name = Builtin.dir.name ∧
    Builtin.dir.read selfListing.arguments = .accepted [] ∧
    files.readDirectory .root (shell.session.directory.join (Path.ofString "."))
      = .ok [Bytes.ofString "a"] ∧
    let o := shell.execute "dir > b" { input := .nothing, output := .memory {} }
    o.result = .ok 0 ∧ o.streams.output = .memory {} ∧
    o.shell.host.world.files.bytes? 4 = some (Bytes.ofString ".\n..\na\nb\n") := by
  have hread : Builtin.dir.read selfListing.arguments = .accepted [] := rfl
  have hnames : files.readDirectory .root (shell.session.directory.join (Path.ofString "."))
      = .ok [Bytes.ofString "a"] :=
    FileSystem.readDirectory_eq_ok.2 ⟨by decide, here, _, locate_dot, rfl, rfl⟩
  have hlists := lists_after_opening starts_selfListing rfl hread
    { input := .nothing, output := .memory {} }
  obtain ⟨found, entries, made, hlocate, -, hentries, -, -, -, hsaid⟩ := hlists.1 _ hnames
  obtain rfl : here = found := Except.ok.inj (locate_dot.symm.trans hlocate)
  obtain rfl : [(Bytes.ofString "a", 3), (Bytes.ofString "b", 4)] = entries :=
    Option.some.inj (Eq.trans (by decide +kernel) hentries)
  obtain ⟨hwriter, -, id, hleads, hfile⟩ := hsaid.to_file ⟨.truncate, "b"⟩ rfl
  obtain rfl : 4 = id :=
    FileSystem.Place.existing.inj
      (Except.ok.inj (locateNew_listing.symm.trans ((if_pos rfl).mp hleads)))
  obtain ⟨hok, -, hbytes⟩ := hfile [] rfl
  refine ⟨starts_selfListing, rfl, hread, hnames, hok, hwriter, hbytes.trans ?_⟩
  decide +kernel

end Sample

end CommandShell
