import CommandShell.Proofs.MapEntries
import CommandShell.Proofs.PlainOperands
import CommandShell.Proofs.UnlimitedWalks

namespace CommandShell

/-!
# ComposedDirectories — one `cd` after another

After a `cd` that succeeds the session goes on from a canonical path. A second one that is relative
is read from there, and a single `cd` with both operands, a separator between them, is read from
where the session was before. Both lead to the same:

* `Builtin.IsTarget` — words that `cd` takes for a directory;
* `Shell.Finds` — where such a word leads, however long the way is and whatever number of links is
  on it; `Shell.Admits` — the limits of the system admit that way;
* `Shell.invoke_cd` — what `cd` does: it goes where the word leads, if the limits admit it;
* `Shell.Finds.movedTo_iff` — where a word leads after a `cd`;
* `Shell.cd_composes` — one `cd` after another, without limits and within them.
-/

/-! ### Words for directories -/

namespace Builtin

/-- A word that `cd` takes for a directory: neither an option nor a request for usage. -/
structure IsTarget (word : String) : Prop where
  /-- There is something in it. -/
  not_empty : word ≠ ""
  /-- It begins with no dash. -/
  no_dash : word.toList.head? ≠ some '-'
  /-- It does not ask for usage. -/
  not_help : word ≠ "help"

namespace IsTarget

variable {word front back : String}

theorem read (h : IsTarget word) : Builtin.cd.read [word] = .accepted [word] := by
  show Builtin.cd.signature.read [word] = _
  rw [Signature.read_of_plain_word rfl h.no_dash]
  exact if_neg h.not_help

theorem toList_ne_nil (h : IsTarget word) : word.toList ≠ [] := fun hnil =>
  h.not_empty (String.toList_eq_nil_iff.1 hnil)

/-- The dot is one. -/
theorem dot : IsTarget "." := ⟨by decide, by decide, by decide⟩

/-- So is anything that goes on with a separator. -/
theorem append (h : IsTarget front) (back : String) : IsTarget (front ++ "/" ++ back) := by
  have hchars : (front ++ "/" ++ back).toList = front.toList ++ '/' :: back.toList := by
    simp
  refine ⟨fun hempty => ?_, ?_, fun hhelp => ?_⟩
  · simp [hempty] at hchars
  · rw [hchars, List.head?_append_of_ne_nil _ h.toList_ne_nil]
    exact h.no_dash
  · -- No separator is in that word.
    have hmem : '/' ∈ (front ++ "/" ++ back).toList := by simp [hchars]
    rw [hhelp] at hmem
    exact absurd hmem (by decide)

theorem bytes_ne_nil (h : IsTarget word) : Bytes.ofString word ≠ [] := by
  obtain ⟨c, rest, hchars⟩ := List.exists_cons_of_ne_nil h.toList_ne_nil
  intro hnil
  rw [Bytes.ofString, hchars, Utf8.encode, List.flatMap_cons, List.append_eq_nil_iff] at hnil
  exact String.utf8EncodeChar_ne_nil hnil.1

end IsTarget

end Builtin

/-- A text that goes on with a separator, as a path. -/
theorem Path.ofString_append (front back : String) :
    Path.ofString (front ++ "/" ++ back) = (Path.ofString front).extend (Bytes.ofString back) := by
  simp only [ofString, extend, Bytes.ofString, String.toList_append, Utf8.encode,
    List.flatMap_append, List.append_assoc]
  rfl

namespace Shell

variable {sh here : Shell} {word front back : String} {found middle : Location} {io : Streams}

/-! ### One `cd` -/

/-- The path that a word stands for in the session. -/
def pathOf (sh : Shell) (word : String) : Path := sh.session.directory.join (Path.ofString word)

/-- Where it went before leaves no trace. -/
theorem movedTo_movedTo (sh : Shell) (middle found : Location) :
    (sh.movedTo middle).movedTo found = sh.movedTo found := by
  have hvars : Variables.set (Variables.set sh.session.vars (Bytes.ofString "PWD")
      middle.path.bytes) (Bytes.ofString "PWD") found.path.bytes
        = Variables.set sh.session.vars (Bytes.ofString "PWD") found.path.bytes :=
    OrderedMap.insert_insert ..
  unfold movedTo setVariable
  rw [hvars]

/-- The word leads to a directory that the process can be in, however long the way is and whatever
    number of links is on it. -/
structure Finds (sh : Shell) (word : String) (found : Location) : Prop where
  /-- The path leads there. -/
  leads : sh.host.world.files.PathLeads sh.host.directory (sh.pathOf word) found
  /-- There is a directory. -/
  holds : sh.host.world.files.isDirectory found.node = true
  /-- The canonical path can be handed to the system. -/
  no_nul : found.path.bytes.hasNul = false

/-- The limits of the system admit that the word leads there. -/
structure Admits (sh : Shell) (word : String) (found : Location) : Prop where
  /-- They admit the path. -/
  path : sh.host.world.files.Admits sh.host.directory (sh.pathOf word) found
  /-- The canonical path is not too long. -/
  short : found.path.bytes.length ≤ FileSystem.pathLimit

/-- The limits of the system do not matter to the word, wherever it leads. -/
def WithinLimits (sh : Shell) (word : String) : Prop :=
  ∀ found, sh.Finds word found → sh.Admits word found

/-- What can be entered is what the word leads to, if the limits admit it. -/
theorem canEnter_iff :
    sh.CanEnter (sh.pathOf word) found ↔ sh.Finds word found ∧ sh.Admits word found := by
  have hfull : found.path.bytes ≠ [] := by simp [Location.path]
  constructor
  · intro h
    obtain ⟨hleads, hpath⟩ := FileSystem.canonicalize_eq_ok_iff.1 h.leads
    obtain ⟨-, hshort⟩ := FileSystem.checkPath_eq_ok_iff.1 h.admitted
    exact ⟨⟨hleads, h.holds, h.no_nul⟩, hpath, hshort⟩
  · rintro ⟨hfinds, hadmits⟩
    exact ⟨FileSystem.canonicalize_eq_ok_iff.2 ⟨hfinds.leads, hadmits.path⟩, hfinds.holds,
      FileSystem.checkPath_eq_ok_iff.2 ⟨hfull, hadmits.short⟩, hfinds.no_nul⟩

/-- A word that can be gone to is within the limits: it leads nowhere else. -/
theorem CanEnter.withinLimits (h : sh.CanEnter (sh.pathOf word) found) : sh.WithinLimits word := by
  obtain ⟨hfinds, hadmits⟩ := canEnter_iff.1 h
  intro found' hfound'
  rwa [hfound'.leads.unique hfinds.leads]

theorem goTo_eq_ok_iff {moved : Shell} :
    Builtin.goTo sh word = .ok moved ↔
      ∃ found, sh.CanEnter (sh.pathOf word) found ∧ moved = sh.movedTo found := by
  rw [Builtin.goTo_eq_ok]
  constructor
  · rintro ⟨found, host, hfound, hmoves, rfl⟩
    obtain ⟨hnul, found', hlocate, hholds, rfl⟩ := Host.changeDirectory_eq_ok.1 hmoves
    obtain ⟨hcheck, -⟩ := FileSystem.locate_eq_ok.1 hlocate
    -- The process goes where the canonical path was found to lead.
    rw [FileSystem.locate_canonical hfound hcheck] at hlocate
    cases hlocate
    exact ⟨found, ⟨hfound, hholds, hcheck, hnul⟩, rfl⟩
  · rintro ⟨found, hfound, rfl⟩
    exact ⟨found, _, hfound.leads, hfound.changeDirectory, rfl⟩

/-- **What `cd` does.** It goes where the word leads, if the limits admit it; if there is no such
    place, it fails and changes nothing. Its output is passed on in the end, though nothing is
    written. -/
theorem invoke_cd (h : Builtin.IsTarget word) (sh : Shell) (background : Bool) (io : Streams) :
    (∀ found, sh.Finds word found → sh.Admits word found →
      sh.invoke "cd" [word] background io
        = ⟨(io.flush sh).map fun () => 0, io, sh.movedTo found⟩) ∧
    ((¬ ∃ found, sh.Finds word found ∧ sh.Admits word found) → ∃ failure,
      sh.invoke "cd" [word] background io = ⟨.error failure, io, sh⟩) := by
  have hinvoke : sh.invoke "cd" [word] background io = Builtin.cd.run [word] io sh :=
    invoke_name .cd ..
  rw [hinvoke]
  refine ⟨fun found hfinds hadmits => ?_, fun hnone => ?_⟩
  · have hgo := goTo_eq_ok_iff.2 ⟨found, canEnter_iff.2 ⟨hfinds, hadmits⟩, rfl⟩
    exact Builtin.run_cd_of_moved h.read hgo io
  · rcases hgo : Builtin.goTo sh word with failure | moved
    · exact ⟨failure, Builtin.run_cd_of_refused h.read hgo io⟩
    · obtain ⟨found, hfound, -⟩ := goTo_eq_ok_iff.1 hgo
      exact absurd ⟨found, canEnter_iff.1 hfound⟩ hnone

/-- A `cd` that succeeds went where the word leads. -/
theorem exists_finds_of_invoke {background : Bool} (h : Builtin.IsTarget word)
    (hok : (sh.invoke "cd" [word] background io).result = .ok 0) :
    io.flush sh = .ok () ∧ ∃ found, sh.Finds word found ∧ sh.Admits word found ∧
      (sh.invoke "cd" [word] background io).shell = sh.movedTo found := by
  obtain ⟨hgoes, hfails⟩ := invoke_cd h sh background io
  by_cases hsome : ∃ found, sh.Finds word found ∧ sh.Admits word found
  · obtain ⟨found, hfinds, hadmits⟩ := hsome
    rw [hgoes found hfinds hadmits] at hok ⊢
    refine ⟨?_, found, hfinds, hadmits, rfl⟩
    rcases hflush : io.flush sh with failure | ⟨⟩
    · rw [hflush] at hok
      cases hok
    · rfl
  · obtain ⟨failure, hfailed⟩ := hfails hsome
    rw [hfailed] at hok
    cases hok

/-! ### One `cd` after another -/

theorem pathOf_append (h : Builtin.IsTarget front) (sh : Shell) (back : String) :
    sh.pathOf (front ++ "/" ++ back) = (sh.pathOf front).extend (Bytes.ofString back) := by
  have hfull : (Path.ofString front).bytes ≠ [] := h.bytes_ne_nil
  rw [pathOf, Path.ofString_append, Path.join_extend hfull, pathOf]

/-- **Where a word leads after a `cd`:** to where both words together, with a separator between
    them, led before. -/
theorem Finds.movedTo_iff (h : sh.Finds front middle) (hfront : Builtin.IsTarget front)
    (hback : Builtin.IsTarget back) (hrelative : (Path.ofString back).isAbsolute = false) :
    (sh.movedTo middle).Finds back found ↔ sh.Finds (front ++ "/" ++ back) found := by
  -- Both are walked on from where the first word leads.
  have hleads : sh.host.world.files.PathLeads middle (middle.path.join (Path.ofString back)) found
      ↔ sh.host.world.files.PathLeads sh.host.directory (sh.pathOf (front ++ "/" ++ back))
        found := by
    rw [pathOf_append hfront, h.leads.extend_iff]
    exact h.leads.join_iff h.no_nul hback.bytes_ne_nil hrelative
  constructor
  · intro hfinds
    exact ⟨hleads.1 hfinds.leads, hfinds.holds, hfinds.no_nul⟩
  · intro hfinds
    exact ⟨hleads.2 hfinds.leads, hfinds.holds, hfinds.no_nul⟩

/-- A dot leads nowhere else then. -/
theorem Finds.movedTo_dot_iff (h : sh.Finds front middle) :
    (sh.movedTo middle).Finds "." found ↔ found = middle := by
  have hleads : sh.host.world.files.PathLeads middle (middle.path.join ⟨Path.here⟩) found
      ↔ found = middle := by
    rw [h.leads.join_iff h.no_nul (by decide) (by decide),
      Path.segments_of_not_mem (by decide), FileSystem.leads_blank_iff (by decide)]
    simp [h.holds, Bytes.hasNul, Path.here, Bytes.nul]
  constructor
  · intro hfinds
    exact hleads.1 hfinds.leads
  · rintro rfl
    exact ⟨hleads.2 rfl, h.holds, h.no_nul⟩

/-- **One `cd` after another.** Let the second of two words for directories be relative.

* Let the first one lead somewhere, however long the way is and whatever number of links is on it.
  Then the second leads from there to where both together, with a separator between them, lead from
  the start, and a shell that went there by way of the first is the one that went there at once. A
  dot leads nowhere else.
* Where the limits of the system do not matter, a `cd` succeeds exactly if its word leads somewhere,
  and it is there that the shell goes.
* Hence, after a `cd` with the first word that succeeds, one with the second succeeds exactly if one
  with both would have from the start, if the limits do not matter to these two. When both succeed
  they leave the same shell, and with it the same directory of the session, `PWD` and directory of
  the process. A `cd` with a dot changes nothing. -/
theorem cd_composes (hfront : Builtin.IsTarget front) (hback : Builtin.IsTarget back)
    (hrelative : (Path.ofString back).isAbsolute = false) (sh : Shell) (background : Bool) :
    (∀ middle, sh.Finds front middle →
      (∀ found, (sh.movedTo middle).Finds back found ↔ sh.Finds (front ++ "/" ++ back) found) ∧
      (∀ found, (sh.movedTo middle).movedTo found = sh.movedTo found) ∧
      ∀ found, (sh.movedTo middle).Finds "." found ↔ found = middle) ∧
    (∀ (here : Shell) (word : String) (io : Streams), Builtin.IsTarget word →
      here.WithinLimits word → ∀ moved,
      ((here.invoke "cd" [word] background io).result = .ok 0 ∧
        (here.invoke "cd" [word] background io).shell = moved) ↔
      io.flush here = .ok () ∧ ∃ found, here.Finds word found ∧ moved = here.movedTo found) ∧
    (∀ (here : Shell) (io io' : Streams), (sh.invoke "cd" [front] background io).result = .ok 0 →
      (sh.invoke "cd" [front] background io).shell = here →
      (here.WithinLimits back → sh.WithinLimits (front ++ "/" ++ back) →
        ((here.invoke "cd" [back] background io').result = .ok 0 ↔
          (sh.invoke "cd" [front ++ "/" ++ back] background io').result = .ok 0)) ∧
      ((here.invoke "cd" [back] background io').result = .ok 0 →
        (sh.invoke "cd" [front ++ "/" ++ back] background io').result = .ok 0 →
        (here.invoke "cd" [back] background io').shell
          = (sh.invoke "cd" [front ++ "/" ++ back] background io').shell) ∧
      (here.WithinLimits "." → here.invoke "cd" ["."] background io'
        = ⟨(io'.flush here).map fun () => 0, io', here⟩)) := by
  have hboth : Builtin.IsTarget (front ++ "/" ++ back) := hfront.append back
  refine ⟨fun middle hmiddle => ?_, fun here word io hword hlimits moved => ?_,
    fun here io io' hok hleft => ?_⟩
  · exact ⟨fun found => hmiddle.movedTo_iff hfront hback hrelative,
      fun found => movedTo_movedTo sh middle found, fun found => hmiddle.movedTo_dot_iff⟩
  · constructor
    · rintro ⟨hok, rfl⟩
      obtain ⟨hflush, found, hfinds, -, hshell⟩ := exists_finds_of_invoke hword hok
      exact ⟨hflush, found, hfinds, hshell⟩
    · rintro ⟨hflush, found, hfinds, rfl⟩
      have hgoes := (invoke_cd hword here background io).1 found hfinds (hlimits found hfinds)
      rw [hgoes, hflush]
      exact ⟨rfl, rfl⟩
  · obtain ⟨-, middle, hmiddle, -, hhere⟩ := exists_finds_of_invoke hfront hok
    obtain rfl : here = sh.movedTo middle := hleft.symm.trans hhere
    have hfinds : ∀ found, (sh.movedTo middle).Finds back found ↔
        sh.Finds (front ++ "/" ++ back) found := fun found =>
      hmiddle.movedTo_iff hfront hback hrelative
    refine ⟨fun hlimits hlimits' => ⟨fun hsecond => ?_, fun hatonce => ?_⟩,
      fun hsecond hatonce => ?_, fun hlimits => ?_⟩
    · obtain ⟨hflush, found, hfound, -⟩ := exists_finds_of_invoke hback hsecond
      have hfound' := (hfinds found).1 hfound
      rw [(invoke_cd hboth sh background io').1 found hfound' (hlimits' found hfound')]
      exact congrArg (Except.map fun () => 0) hflush
    · obtain ⟨hflush, found, hfound, -⟩ := exists_finds_of_invoke hboth hatonce
      have hfound' := (hfinds found).2 hfound
      rw [(invoke_cd hback _ background io').1 found hfound' (hlimits found hfound')]
      exact congrArg (Except.map fun () => 0) hflush
    · obtain ⟨-, found, hfound, -, hshell⟩ := exists_finds_of_invoke hback hsecond
      obtain ⟨-, found', hfound', -, hshell'⟩ := exists_finds_of_invoke hboth hatonce
      have hsame : found = found' := ((hfinds found).1 hfound).leads.unique hfound'.leads
      rw [hshell, hshell', movedTo_movedTo, hsame]
    · have hdot : (sh.movedTo middle).Finds "." middle := hmiddle.movedTo_dot_iff.2 rfl
      rw [(invoke_cd .dot _ background io').1 middle hdot (hlimits middle hdot), movedTo_movedTo]

end Shell

/-! ### A directory behind a link -/

namespace Sample

/-- A directory `d` with `e` in it, and a link `l` to the latter. -/
def shortcut : FileSystem :=
  ⟨#[.directory [(Bytes.ofString "d", 1), (Bytes.ofString "l", 3)],
    .directory [(Bytes.ofString "e", 2)], .directory [], .link (Path.ofString "d/e")]⟩

/-- A shell in the root directory. -/
def before : Shell := ⟨{ directory := .root }, Machine.host shortcut .root⟩

/-- Where `d` is. -/
def outer : Location := Location.root.child (Bytes.ofString "d") 1

/-- Where the link leads. -/
def inner : Location := outer.child (Bytes.ofString "e") 2

/-- A path from the root that is walked to a directory can be entered. -/
theorem canEnter_of_walk {sh : Shell} {path : Path} {found : Location}
    (habsolute : path.isAbsolute = true) (hnul : path.bytes.hasNul = false)
    (hcheck : FileSystem.checkPath path = .ok ())
    (hwalk : sh.host.world.files.walk FileSystem.linkLimit .root path.segments = .ok found)
    (holds : sh.host.world.files.isDirectory found.node = true)
    (hadmitted : FileSystem.checkPath found.path = .ok ())
    (hfound : found.path.bytes.hasNul = false) : sh.CanEnter path found := by
  refine ⟨?_, holds, hadmitted, hfound⟩
  have hstart : FileSystem.startOf sh.host.directory path = .root := if_pos habsolute
  rw [FileSystem.canonicalize_of_absolute habsolute]
  exact FileSystem.guarded_eq_ok.2 ⟨hnul, FileSystem.locate_eq_ok.2 ⟨hcheck, hstart ▸ hwalk⟩⟩

theorem walk_inner (links : Nat) (rest : List Bytes) :
    shortcut.walk links .root (Bytes.ofString "d" :: Bytes.ofString "e" :: rest)
      = shortcut.walk links inner rest :=
  calc
    _ = shortcut.walk links outer (Bytes.ofString "e" :: rest) :=
      FileSystem.walk_entry rfl (by decide) (by decide) (by decide) rfl (fun _ h => by cases h) _
    _ = shortcut.walk links inner rest :=
      FileSystem.walk_entry rfl (by decide) (by decide) (by decide) rfl (fun _ h => by cases h) _

theorem walk_behind_link (links : Nat) (rest : List Bytes) :
    shortcut.walk (links + 1) .root (Bytes.ofString "l" :: rest)
      = shortcut.walk links inner rest := by
  have hlink : shortcut.node? 3 = some (.link (Path.ofString "d/e")) := rfl
  have hsegments : (Path.ofString "d/e").segments = [Bytes.ofString "d", Bytes.ofString "e"] := by
    decide +kernel
  rw [FileSystem.walk_link rfl (by decide) (by decide) (by decide) rfl hlink, hsegments,
    if_neg (by decide)]
  exact walk_inner links rest

theorem walk_above_inner (links : Nat) :
    shortcut.walk links inner [Path.above] = .ok outer := by
  rw [FileSystem.walk_above rfl, FileSystem.walk_nil]
  rfl

theorem canEnter_link : before.CanEnter (before.pathOf "l") inner := by
  have hsegments : (before.pathOf "l").segments = [[], Bytes.ofString "l"] := by decide +kernel
  refine canEnter_of_walk (by decide) (by decide) (by decide) ?_ rfl (by decide) (by decide)
  rw [hsegments, FileSystem.walk_blank rfl rfl]
  exact (walk_behind_link _ _).trans (FileSystem.walk_nil ..)

theorem canEnter_above :
    (before.movedTo inner).CanEnter ((before.movedTo inner).pathOf "..") outer := by
  have hsegments : ((before.movedTo inner).pathOf "..").segments
      = [[], Bytes.ofString "d", Bytes.ofString "e", Path.above] := by decide +kernel
  refine canEnter_of_walk (by decide) (by decide) (by decide) ?_ rfl (by decide) (by decide)
  rw [hsegments, FileSystem.walk_blank rfl rfl]
  exact (walk_inner _ _).trans (walk_above_inner _)

theorem canEnter_at_once : before.CanEnter (before.pathOf ("l" ++ "/" ++ "..")) outer := by
  have hsegments : (before.pathOf ("l" ++ "/" ++ "..")).segments
      = [[], Bytes.ofString "l", Path.above] := by decide +kernel
  refine canEnter_of_walk (by decide) (by decide) (by decide) ?_ rfl (by decide) (by decide)
  rw [hsegments, FileSystem.walk_blank rfl rfl]
  exact (walk_behind_link _ _).trans (walk_above_inner _)

/-- What is above the directory that a link leads to is not what is above the link. -/
theorem above_link :
    Builtin.IsTarget "l" ∧ Builtin.IsTarget ".." ∧ (Path.ofString "..").isAbsolute = false ∧
    (before.invoke "cd" ["l"] false {}).result = .ok 0 ∧
    (before.invoke "cd" ["l"] false {}).shell = before.movedTo inner ∧
    (before.movedTo inner).WithinLimits ".." ∧ before.WithinLimits ("l" ++ "/" ++ "..") ∧
    ((before.movedTo inner).invoke "cd" [".."] false {}).result = .ok 0 ∧
    ((before.movedTo inner).invoke "cd" [".."] false {}).shell = before.movedTo outer ∧
    (before.invoke "cd" ["l" ++ "/" ++ ".."] false {}).result = .ok 0 ∧
    (before.invoke "cd" ["l" ++ "/" ++ ".."] false {}).shell = before.movedTo outer := by
  have hlink : Builtin.IsTarget "l" := ⟨by decide, by decide, by decide⟩
  have habove : Builtin.IsTarget ".." := ⟨by decide, by decide, by decide⟩
  have hrelative : (Path.ofString "..").isAbsolute = false := by decide
  -- The first `cd` follows the link.
  obtain ⟨hfinds, hadmits⟩ := Shell.canEnter_iff.1 canEnter_link
  have hfirst := (Shell.invoke_cd hlink before false {}).1 inner hfinds hadmits
  have hok : (before.invoke "cd" ["l"] false {}).result = .ok 0 := by
    rw [hfirst]
    rfl
  have hleft : (before.invoke "cd" ["l"] false {}).shell = before.movedTo inner := by rw [hfirst]
  -- The second goes on from where that leads.
  obtain ⟨hfinds', hadmits'⟩ := Shell.canEnter_iff.1 canEnter_above
  have hsecond := (Shell.invoke_cd habove (before.movedTo inner) false {}).1 outer hfinds' hadmits'
  have hok' : ((before.movedTo inner).invoke "cd" [".."] false {}).result = .ok 0 := by
    rw [hsecond]
    rfl
  have hleft' : ((before.movedTo inner).invoke "cd" [".."] false {}).shell
      = before.movedTo outer := by
    rw [hsecond, Shell.movedTo_movedTo]
  have hlimits := canEnter_above.withinLimits
  have hlimits' := canEnter_at_once.withinLimits
  obtain ⟨hiff, hsame, -⟩ :=
    (Shell.cd_composes hlink habove hrelative before false).2.2 _ {} {} hok hleft
  have hatonce := (hiff hlimits hlimits').1 hok'
  exact ⟨hlink, habove, hrelative, hok, hleft, hlimits, hlimits', hok', hleft', hatonce,
    (hsame hok' hatonce).symm.trans hleft'⟩

end Sample

end CommandShell
