import CommandShell.Proofs.FilePlaces
import CommandShell.Proofs.GrownPrograms
import CommandShell.Proofs.Pieces

namespace CommandShell

/-!
# PlainNames — files of a directory, opened by name

A plain name is one part of a path. Read from an absolute directory it leads to the entry of that
name, however the directory is written.

* `FileSystem.walk_append` — a path is walked part after part;
* `Path.segments_join` — the parts of a relative path read from a directory;
* `FileSystem.IsDirectoryAt`, `Path.IsPlainIn` — the directory, and a name that can be opened in it;
* `FileSystem.openInput_plain`, `FileSystem.openOutput_existing`, `FileSystem.openOutput_vacant` —
  opening such a name.
-/

/-! ### Paths that go on -/

/-- A path that goes on is walked from where its front leads, with the links that are left then. -/
theorem FileSystem.walk_append (fs : FileSystem) (links : Nat) (at' : Location)
    (front : List Bytes) : ∃ links', ∀ rest,
      fs.walk links at' (front ++ rest)
        = (fs.walk links at' front).bind fun middle => fs.walk links' middle rest := by
  -- A link puts its own parts before the rest, and one link fewer is left.
  fun_induction FileSystem.walk fs links at' front with
  | case1 links at' => exact ⟨links, fun rest => rfl⟩
  | case2 links at' part front hentries =>
    refine ⟨links, fun rest => ?_⟩
    rw [List.cons_append, walk, hentries]
    rfl
  | case3 links at' part front entries hentries hblank ih =>
    obtain ⟨links', hfront⟩ := ih
    refine ⟨links', fun rest => ?_⟩
    rw [List.cons_append, walk_blank hentries hblank, hfront]
  | case4 links at' front entries hentries hblank ih =>
    obtain ⟨links', hfront⟩ := ih
    refine ⟨links', fun rest => ?_⟩
    rw [List.cons_append, walk_above hentries, hfront]
  | case5 links at' part front entries hentries hblank habove hlength =>
    refine ⟨links, fun rest => ?_⟩
    rw [List.cons_append, walk, hentries]
    simp only [if_neg hblank, if_neg habove, if_pos hlength]
    rfl
  | case6 links at' part front entries hentries hblank habove hlength hlookup =>
    refine ⟨links, fun rest => ?_⟩
    rw [List.cons_append, walk, hentries]
    simp only [if_neg hblank, if_neg habove, if_neg hlength, hlookup]
    rfl
  | case7 at' part front entries hentries hblank habove hlength id hlookup target hlink =>
    refine ⟨0, fun rest => ?_⟩
    rw [List.cons_append, walk, hentries]
    simp only [if_neg hblank, if_neg habove, if_neg hlength, hlookup, hlink]
    rfl
  | case8 at' part front entries hentries hblank habove hlength id hlookup target hlink links ih =>
    obtain ⟨links', hfront⟩ := ih
    refine ⟨links', fun rest => ?_⟩
    rw [List.cons_append, walk_link hentries hblank habove hlength hlookup hlink,
      ← List.append_assoc]
    exact hfront rest
  | case9 links at' part front entries hentries hblank habove hlength id hlookup hlink ih =>
    obtain ⟨links', hfront⟩ := ih
    refine ⟨links', fun rest => ?_⟩
    rw [List.cons_append, walk_entry hentries hblank habove hlength hlookup hlink, hfront]

namespace Path

/-- A path that starts at the root still does when a name is read from it. -/
theorem isAbsolute_join {directory : Path} (h : directory.isAbsolute = true) (name : Path) :
    (directory.join name).isAbsolute = true := by
  unfold join
  by_cases hname : name.isAbsolute
  · rw [if_pos hname, hname]
  · rw [if_neg hname]
    obtain ⟨_ | ⟨b, rest⟩⟩ := directory
    · cases h
    · split_ifs <;> exact h

/-- A name without separators does not start at the root. -/
theorem isAbsolute_of_not_mem {name : Bytes} (h : separator ∉ name) :
    isAbsolute ⟨name⟩ = false := by
  rcases name with _ | ⟨b, rest⟩
  · rfl
  · have hb : b ≠ separator := fun hb => h (hb ▸ List.mem_cons_self)
    simpa [isAbsolute] using hb

/-- A name without a separator is one part. -/
theorem segments_of_not_mem {name : Bytes} (h : separator ∉ name) : segments ⟨name⟩ = [name] :=
  Bytes.splitOn_of_not_mem h

/-- The last parts of a relative path read from a directory are its own. What comes before are the
    parts of the directory, but for an empty one that a separator at its end leaves. -/
theorem segments_join (directory : Path) {path : Path} (h : path.isAbsolute = false) :
    ∃ front, (directory.join path).segments = front ++ path.segments ∧
      (directory.segments = front ∨ directory.segments = front ++ [[]]) := by
  have hrelative : ¬ path.isAbsolute = true := by simp [h]
  unfold join segments
  rw [if_neg hrelative]
  by_cases hempty : directory.bytes = []
  · -- The empty path has one part, and nothing is in it.
    exact ⟨[], by simp [hempty], .inr (by rw [hempty]; rfl)⟩
  · by_cases hlast : directory.bytes.getLast? = some separator
    · obtain ⟨front, hfront⟩ := List.getLast?_eq_some_iff.1 hlast
      refine ⟨Bytes.splitOn separator front, ?_, .inr ?_⟩
      · rw [if_pos (by simp [hlast]), hfront, List.append_assoc, List.singleton_append,
          Bytes.splitOn_append_cons]
      · rw [hfront, Bytes.splitOn_append_cons]
        rfl
    · refine ⟨Bytes.splitOn separator directory.bytes, ?_, .inl rfl⟩
      rw [if_neg (by simp [hempty, hlast]), Bytes.splitOn_append_cons]

theorem hasNul_join {directory : Path} {name : Bytes} (h : directory.bytes.hasNul = false)
    (hname : name.hasNul = false) : (directory.join ⟨name⟩).bytes.hasNul = false := by
  have hsep : Bytes.nul ≠ separator := by decide
  unfold Bytes.hasNul at *
  unfold join
  split_ifs <;> simp_all

/-- Whether a name is one part of a path, and short enough to be opened in a directory. -/
structure IsPlainIn (directory : Path) (name : Bytes) : Prop where
  /-- It is no blank part. -/
  not_blank : isBlank name = false
  /-- It is not the directory above. -/
  not_above : name ≠ above
  /-- It is one part. -/
  one_part : separator ∉ name
  /-- It can be handed to the system. -/
  no_nul : name.hasNul = false
  /-- It is short enough for an entry. -/
  short : name.length ≤ FileSystem.nameLimit
  /-- Read from the directory it is short enough for a path. -/
  reachable : (directory.join ⟨name⟩).bytes.length ≤ FileSystem.pathLimit

end Path

namespace FileSystem

/-- An absolute path that leads to a directory with some entries. -/
structure IsDirectoryAt (fs : FileSystem) (start : Location) (directory : Path) (here : Location)
    (entries : List (Bytes × NodeId)) : Prop where
  /-- The path starts at the root. -/
  absolute : directory.isAbsolute = true
  /-- It leads to the location. -/
  leads : fs.canonicalize start directory = .ok here
  /-- There is a directory with those entries. -/
  holds : fs.node? here.node = some (.directory entries)

/-- The path can be handed to the system, and is walked to the location. -/
theorem IsDirectoryAt.located {fs : FileSystem} {start here : Location} {directory : Path}
    {entries : List (Bytes × NodeId)} (hat : fs.IsDirectoryAt start directory here entries) :
    directory.bytes.hasNul = false ∧ fs.locate start directory = .ok here := by
  have hleads := hat.leads
  rw [canonicalize_of_absolute hat.absolute] at hleads
  exact guarded_eq_ok.1 hleads

/-- A directory stays where it is while files are made in it. -/
theorem IsDirectoryAt.of_grown {before after : FileSystem} {start here : Location}
    {directory : Path} {entries grown : List (Bytes × NodeId)} {written : List NodeId}
    (hat : before.IsDirectoryAt start directory here entries)
    (h : Grown here.node written before after)
    (hgrown : after.node? here.node = some (.directory grown)) :
    after.IsDirectoryAt start directory here grown where
  absolute := hat.absolute
  leads := by
    obtain ⟨hnul, hlocate⟩ := hat.located
    rw [canonicalize_of_absolute hat.absolute]
    exact guarded_eq_ok.2 ⟨hnul, h.locate_ok hlocate⟩
  holds := hgrown

section Opening

variable {fs : FileSystem} {mask : Nat} {start here : Location} {directory : Path}
  {entries : List (Bytes × NodeId)} {name : Bytes}

theorem checkPath_join (hat : fs.IsDirectoryAt start directory here entries)
    (hname : directory.IsPlainIn name) : checkPath (directory.join ⟨name⟩) = .ok () := by
  have hfull : (directory.join ⟨name⟩).bytes.isEmpty = false := by
    have habsolute := Path.isAbsolute_join hat.absolute ⟨name⟩
    rcases hbytes : (directory.join ⟨name⟩).bytes with _ | ⟨b, rest⟩
    · rw [Path.isAbsolute, hbytes] at habsolute
      cases habsolute
    · rfl
  have hlength : ¬ (directory.join ⟨name⟩).bytes.length > pathLimit :=
    Nat.not_lt.2 hname.reachable
  unfold checkPath
  rw [hfull, if_neg Bool.false_ne_true, if_neg hlength]

/-- The parts of a plain name, read from a directory: those of a way to the directory, then the
    name. -/
theorem walk_join (hat : fs.IsDirectoryAt start directory here entries)
    (hname : directory.IsPlainIn name) :
    ∃ front, (directory.join ⟨name⟩).segments = front ++ [name] ∧
      fs.walk linkLimit .root front = .ok here := by
  obtain ⟨front, hsegments, hfront⟩ :=
    Path.segments_join directory (Path.isAbsolute_of_not_mem hname.one_part)
  rw [Path.segments_of_not_mem hname.one_part] at hsegments
  obtain ⟨-, hlocate⟩ := hat.located
  obtain ⟨-, hwalk⟩ := locate_eq_ok.1 hlocate
  rw [startOf, if_pos hat.absolute] at hwalk
  refine ⟨front, hsegments, ?_⟩
  rcases hfront with hfront | hfront
  · rw [← hfront, hwalk]
  · obtain ⟨links', happend⟩ := fs.walk_append linkLimit .root front
    rw [hfront, happend] at hwalk
    rcases hmiddle : fs.walk linkLimit .root front with reason | middle
    · rw [hmiddle] at hwalk
      cases hwalk
    · -- The empty part at the end leads nowhere else.
      rw [hmiddle] at hwalk
      have hlast : fs.walk links' middle [[]] = .ok here := hwalk
      obtain ⟨entries', hentries'⟩ := walk_cons_eq_ok hlast
      rw [walk_blank hentries' (by rfl), walk_nil] at hlast
      rw [hlast]

theorem entries?_here (hat : fs.IsDirectoryAt start directory here entries) :
    fs.entries? here.node = some entries := by
  rw [entries?, hat.holds]

/-- A plain name that is there can be opened to be read. -/
theorem openInput_plain (hat : fs.IsDirectoryAt start directory here entries)
    (hname : directory.IsPlainIn name) {id : NodeId} (hlookup : lookup entries name = some id)
    {mode : Nat} {content : Bytes} (hfile : fs.node? id = some (.file mode content)) :
    fs.openInput start (directory.join ⟨name⟩) = .ok id := by
  obtain ⟨front, hsegments, hfront⟩ := walk_join hat hname
  obtain ⟨links', happend⟩ := fs.walk_append linkLimit .root front
  have hlink : ∀ target, fs.node? id ≠ some (.link target) := by
    intro target htarget
    rw [hfile] at htarget
    cases htarget
  have hblank : ¬ Path.isBlank name = true := by simp [hname.not_blank]
  have hlocate : fs.locate start (directory.join ⟨name⟩) = .ok (here.child name id) := by
    refine locate_eq_ok.2 ⟨checkPath_join hat hname, ?_⟩
    rw [startOf, if_pos (Path.isAbsolute_join hat.absolute ⟨name⟩), hsegments, happend, hfront]
    show fs.walk links' here [name] = _
    rw [walk_entry (entries?_here hat) hblank hname.not_above (Nat.not_lt.2 hname.short) hlookup
      hlink, walk_nil]
  have hnul := Path.hasNul_join hat.located.1 hname.no_nul
  refine guarded_eq_ok.2 ⟨hnul, ?_⟩
  rw [hlocate]
  rfl

/-- A plain name that is free leads nowhere. -/
theorem canonicalize_vacant (hat : fs.IsDirectoryAt start directory here entries)
    (hname : directory.IsPlainIn name) (hlookup : lookup entries name = none) :
    fs.canonicalize start (directory.join ⟨name⟩) = .error (.os .notFound) := by
  obtain ⟨front, hsegments, hfront⟩ := walk_join hat hname
  obtain ⟨links', happend⟩ := fs.walk_append linkLimit .root front
  have habsolute := Path.isAbsolute_join hat.absolute ⟨name⟩
  have hblank : ¬ Path.isBlank name = true := by simp [hname.not_blank]
  have hlast : fs.walk links' here [name] = .error .notFound := by
    rw [walk, entries?_here hat]
    simp only [if_neg hblank, if_neg hname.not_above, if_neg (Nat.not_lt.2 hname.short), hlookup]
  have hlocate : fs.locate start (directory.join ⟨name⟩) = .error .notFound := by
    unfold locate
    rw [checkPath_join hat hname, startOf, if_pos habsolute, hsegments, happend, hfront]
    exact hlast
  rw [canonicalize_of_absolute habsolute, hlocate, guarded,
    Path.hasNul_join hat.located.1 hname.no_nul]
  rfl

/-- Then there is no regular file. -/
theorem isRegular_vacant (hat : fs.IsDirectoryAt start directory here entries)
    (hname : directory.IsPlainIn name) (hlookup : lookup entries name = none) :
    fs.isRegular start (directory.join ⟨name⟩) = false := by
  have hnone := canonicalize_vacant hat hname hlookup
  rw [canonicalize_of_absolute (Path.isAbsolute_join hat.absolute ⟨name⟩)] at hnone
  rw [isRegular, hnone]

/-- Where a plain name to be written leads: to what is there, or to a free name. -/
theorem locateNew_plain (hat : fs.IsDirectoryAt start directory here entries)
    (hname : directory.IsPlainIn name)
    (hlink : ∀ id, lookup entries name = some id → ∀ target, fs.node? id ≠ some (.link target)) :
    fs.locateNew start (directory.join ⟨name⟩) =
      .ok (match lookup entries name with
        | none => .vacant here name
        | some id => .existing id) := by
  obtain ⟨front, hsegments, hfront⟩ := walk_join hat hname
  have hends : fs.EndsIn linkLimit .root (front ++ [name]) here name entries :=
    ⟨⟨front, rfl, hfront⟩, hat.holds, by simp [hname.not_blank], hname.not_above,
      Nat.not_lt.2 hname.short⟩
  unfold locateNew
  rw [checkPath_join hat hname, startOf, if_pos (Path.isAbsolute_join hat.absolute ⟨name⟩),
    hsegments]
  show fs.placeOf linkLimit .root (front ++ [name]) = _
  rw [placeOf_of_endsIn hends]
  rcases hlookup : lookup entries name with _ | id
  · rfl
  · exact placeUnder_of_not_link (hlink id hlookup) _ _

/-- Opening a plain name that is there leaves its bytes, or takes them away. -/
theorem openOutput_existing (hat : fs.IsDirectoryAt start directory here entries)
    (hname : directory.IsPlainIn name) {id : NodeId} (hlookup : lookup entries name = some id)
    {mode : Nat} {content : Bytes} (hfile : fs.node? id = some (.file mode content))
    (truncate : Bool) :
    fs.openOutput mask start (directory.join ⟨name⟩) truncate =
      .ok (fs.setNode id (.file mode (if truncate then [] else content)), id) := by
  have hlink : ∀ id, lookup entries name = some id →
      ∀ target, fs.node? id ≠ some (.link target) := by
    intro id' hid' target htarget
    rw [hlookup] at hid'
    cases hid'
    rw [hfile] at htarget
    cases htarget
  have hnul := Path.hasNul_join hat.located.1 hname.no_nul
  refine guarded_eq_ok.2 ⟨hnul, ?_⟩
  unfold openForWriting
  rw [locateNew_plain hat hname hlink, hlookup]
  simp only [bind, Except.bind, hfile]

/-- Opening a plain name that is free makes an empty file. -/
theorem openOutput_vacant (hat : fs.IsDirectoryAt start directory here entries)
    (hname : directory.IsPlainIn name) (hlookup : lookup entries name = none) (truncate : Bool) :
    fs.openOutput mask start (directory.join ⟨name⟩) truncate =
      .ok (fs.addEntry here.node name (.file (outputMode mask) [])) := by
  have hlink : ∀ id, lookup entries name = some id →
      ∀ target, fs.node? id ≠ some (.link target) := by
    intro id hid
    rw [hlookup] at hid
    cases hid
  have hnul := Path.hasNul_join hat.located.1 hname.no_nul
  refine guarded_eq_ok.2 ⟨hnul, ?_⟩
  unfold openForWriting
  rw [locateNew_plain hat hname hlink, hlookup]
  rfl

end Opening

end FileSystem

end CommandShell
