import CommandShell.Proofs.CanonicalPaths

namespace CommandShell

/-!
# UnlimitedWalks — where paths lead when links are not counted

A walk gives up after some number of links. Where it leads does not depend on that number as long as
it is not reached, so a path can be asked where it leads if any number of links may be followed.
Asked that way, paths compose: a path that goes on leads to where its rest leads from where its front
does.

* `FileSystem.walk_of_le` — a walk that may follow more links leads to the same;
* `FileSystem.Leads` — where parts lead, with as many links as it takes;
* `FileSystem.leads_append_iff` — parts one after the other;
* `FileSystem.PathLeads` — the same of a path, read from a location;
* `FileSystem.canonicalize_eq_ok_iff` — what the system finds are such places, if its limits admit;
* `FileSystem.PathLeads.append_iff`, `FileSystem.PathLeads.join_iff` — a path that goes on, and one
  that is read from where the first leads, lead to the same.
-/

namespace FileSystem

variable {fs : FileSystem} {links more : Nat} {at' start found middle : Location}
  {parts front rest : List Bytes} {path : Path}

/-! ### Parts of paths -/

/-- A walk that may follow more links leads to the same. -/
theorem walk_of_le (h : fs.walk links at' parts = .ok found) (hle : links ≤ more) :
    fs.walk more at' parts = .ok found := by
  -- Each link takes one from both numbers; the other steps leave them.
  fun_induction walk fs links at' parts generalizing more with
  | case1 links at' => rwa [walk_nil]
  | case2 | case5 | case6 | case7 => cases h
  | case3 links at' part rest entries hentries hblank ih =>
    rw [walk_blank hentries hblank]
    exact ih h hle
  | case4 links at' rest entries hentries hblank ih =>
    rw [walk_above hentries]
    exact ih h hle
  | case8 at' part rest entries hentries hblank habove hlength id hlookup target hlink links ih =>
    obtain ⟨fewer, rfl⟩ := Nat.exists_eq_add_one_of_ne_zero (Nat.ne_zero_of_lt hle)
    rw [walk_link hentries hblank habove hlength hlookup hlink]
    exact ih h (Nat.le_of_succ_le_succ hle)
  | case9 links at' part rest entries hentries hblank habove hlength id hlookup hlink ih =>
    rw [walk_entry hentries hblank habove hlength hlookup hlink]
    exact ih h hle

/-- Two walks one after the other follow as many links as both. -/
theorem walk_append_of_ok (hfront : fs.walk links at' front = .ok middle)
    (hrest : fs.walk more middle rest = .ok found) :
    fs.walk (links + more) at' (front ++ rest) = .ok found := by
  fun_induction walk fs links at' front with
  | case1 links at' =>
    cases hfront
    exact walk_of_le hrest (Nat.le_add_left more links)
  | case2 | case5 | case6 | case7 => cases hfront
  | case3 links at' part front entries hentries hblank ih =>
    rw [List.cons_append, walk_blank hentries hblank]
    exact ih hfront
  | case4 links at' front entries hentries hblank ih =>
    rw [List.cons_append, walk_above hentries]
    exact ih hfront
  | case8 at' part front entries hentries hblank habove hlength id hlookup target hlink links ih =>
    rw [List.cons_append, Nat.succ_add,
      walk_link hentries hblank habove hlength hlookup hlink, ← List.append_assoc]
    exact ih hfront
  | case9 links at' part front entries hentries hblank habove hlength id hlookup hlink ih =>
    rw [List.cons_append, walk_entry hentries hblank habove hlength hlookup hlink]
    exact ih hfront

/-- Parts lead from one location to another, whatever number of links it takes. -/
def Leads (fs : FileSystem) (at' : Location) (parts : List Bytes) (found : Location) : Prop :=
  ∃ links, fs.walk links at' parts = .ok found

/-- They lead to one location only. -/
theorem Leads.unique {found' : Location} (h : fs.Leads at' parts found)
    (h' : fs.Leads at' parts found') : found = found' := by
  obtain ⟨links, hwalk⟩ := h
  obtain ⟨links', hwalk'⟩ := h'
  have hmost := walk_of_le hwalk (Nat.le_max_left links links')
  have hmost' := walk_of_le hwalk' (Nat.le_max_right links links')
  exact Except.ok.inj (hmost.symm.trans hmost')

/-- **Parts that go on** lead to where the rest leads from where the front does. -/
theorem leads_append_iff :
    fs.Leads at' (front ++ rest) found ↔
      ∃ middle, fs.Leads at' front middle ∧ fs.Leads middle rest found := by
  constructor
  · rintro ⟨links, hwalk⟩
    obtain ⟨links', happend⟩ := fs.walk_append links at' front
    rw [happend] at hwalk
    rcases hfront : fs.walk links at' front with reason | middle
    · rw [hfront] at hwalk
      cases hwalk
    · rw [hfront] at hwalk
      exact ⟨middle, ⟨links, hfront⟩, links', hwalk⟩
  · rintro ⟨middle, ⟨links, hfront⟩, links', hrest⟩
    exact ⟨links + links', walk_append_of_ok hfront hrest⟩

/-- So the rest can be walked from where the front is known to lead. -/
theorem Leads.append_iff (h : fs.Leads at' front middle) :
    fs.Leads at' (front ++ rest) found ↔ fs.Leads middle rest found := by
  rw [leads_append_iff]
  constructor
  · rintro ⟨middle', hfront, hrest⟩
    rwa [h.unique hfront]
  · exact fun hrest => ⟨middle, h, hrest⟩

/-- A blank part leads nowhere else. -/
theorem leads_blank_iff {part : Bytes} (hpart : Path.isBlank part = true) :
    fs.Leads at' [part] found ↔ fs.isDirectory at'.node = true ∧ found = at' := by
  constructor
  · rintro ⟨links, hwalk⟩
    obtain ⟨entries, hentries⟩ := walk_cons_eq_ok hwalk
    rw [walk_blank hentries hpart, walk_nil] at hwalk
    exact ⟨by rw [isDirectory, hentries, Option.isSome_some], (Except.ok.inj hwalk).symm⟩
  · rintro ⟨hdirectory, rfl⟩
    obtain ⟨entries, hentries⟩ := Option.isSome_iff_exists.1 hdirectory
    exact ⟨0, by rw [walk_blank hentries hpart, walk_nil]⟩

/-! ### Paths -/

/-- A path read from a location leads to another, whatever its length and the number of links. -/
structure PathLeads (fs : FileSystem) (start : Location) (path : Path) (found : Location) :
    Prop where
  /-- The path can be handed to the system. -/
  no_nul : path.bytes.hasNul = false
  /-- There is something in it. -/
  not_empty : path.bytes ≠ []
  /-- It is walked from the root. -/
  walked : ∃ parts, fs.partsFromRoot start path = .ok parts ∧ fs.Leads .root parts found

/-- A path leads to one location only. -/
theorem PathLeads.unique {found' : Location} (h : fs.PathLeads start path found)
    (h' : fs.PathLeads start path found') : found = found' := by
  obtain ⟨parts, hparts, hleads⟩ := h.walked
  obtain ⟨parts', hparts', hleads'⟩ := h'.walked
  rw [hparts] at hparts'
  cases hparts'
  exact hleads.unique hleads'

theorem checkPath_eq_ok_iff :
    checkPath path = .ok () ↔ path.bytes ≠ [] ∧ path.bytes.length ≤ pathLimit := by
  unfold checkPath
  split_ifs with hempty hlong
  · simp [List.isEmpty_iff.1 hempty]
  · simp [hlong]
  · exact ⟨fun _ => ⟨by simpa using hempty, Nat.le_of_not_lt hlong⟩, fun _ => rfl⟩

/-- The limits of the system admit a path that leads to a location: it is not too long, and the walk
    takes no more links than are followed. -/
structure Admits (fs : FileSystem) (start : Location) (path : Path) (found : Location) : Prop where
  /-- The path is not too long. -/
  short : path.bytes.length ≤ pathLimit
  /-- There are not too many links on the way. -/
  few_links : ∀ parts, fs.partsFromRoot start path = .ok parts →
    ∃ links ≤ linkLimit, fs.walk links .root parts = .ok found

/-- **What the system finds** is what a path leads to, if the limits admit it. -/
theorem canonicalize_eq_ok_iff :
    fs.canonicalize start path = .ok found ↔
      fs.PathLeads start path found ∧ fs.Admits start path found := by
  unfold canonicalize
  rw [guarded_eq_ok]
  constructor
  · rintro ⟨hnul, hask⟩
    rcases hcheck : checkPath path with reason | ⟨⟩
    · rw [hcheck] at hask
      cases hask
    rcases hparts : fs.partsFromRoot start path with reason | parts
    · rw [hcheck, hparts] at hask
      cases hask
    rw [hcheck, hparts] at hask
    have hwalk : fs.walk linkLimit .root parts = .ok found := hask
    obtain ⟨hempty, hshort⟩ := checkPath_eq_ok_iff.1 hcheck
    refine ⟨⟨hnul, hempty, parts, hparts, linkLimit, hwalk⟩, hshort, ?_⟩
    intro parts' hparts'
    rw [hparts] at hparts'
    cases hparts'
    exact ⟨linkLimit, Nat.le_refl _, hwalk⟩
  · rintro ⟨hleads, hadmits⟩
    obtain ⟨parts, hparts, -⟩ := hleads.walked
    obtain ⟨links, hle, hwalk⟩ := hadmits.few_links parts hparts
    refine ⟨hleads.no_nul, ?_⟩
    rw [checkPath_eq_ok_iff.2 ⟨hleads.not_empty, hadmits.short⟩, hparts]
    exact walk_of_le hwalk hle

/-- What a path leads to is reached without links, so the canonical path leads there as well. -/
theorem PathLeads.canonical (h : fs.PathLeads start path found) :
    fs.Leads .root found.path.segments found := by
  obtain ⟨parts, hparts, links, hwalk⟩ := h.walked
  obtain ⟨hsome, hone⟩ := partsFromRoot_parts hparts
  have hstraight : fs.Straight found := Straight.root.of_walk hone hwalk
  obtain ⟨part, rest, rfl⟩ := List.exists_cons_of_ne_nil hsome
  obtain ⟨entries, hroot⟩ := walk_cons_eq_ok hwalk
  exact ⟨0, hstraight.walk_path hroot 0⟩

end FileSystem

/-! ### Paths that go on -/

namespace Path

/-- The path with a separator and more bytes after it. -/
def extend (path : Path) (more : Bytes) : Path := ⟨path.bytes ++ separator :: more⟩

variable {path directory : Path} {more : Bytes}

theorem segments_extend (path : Path) (more : Bytes) :
    (path.extend more).segments = path.segments ++ segments ⟨more⟩ :=
  Bytes.splitOn_append_cons path.bytes more

/-- It starts where the path starts, if that is not empty. -/
theorem isAbsolute_extend (h : path.bytes ≠ []) (more : Bytes) :
    (path.extend more).isAbsolute = path.isAbsolute := by
  obtain ⟨_ | ⟨b, rest⟩⟩ := path
  · exact absurd rfl h
  · rfl

/-- Reading it from a directory goes on in the same way. -/
theorem join_extend (h : path.bytes ≠ []) (directory : Path) (more : Bytes) :
    directory.join (path.extend more) = (directory.join path).extend more := by
  unfold join
  rw [isAbsolute_extend h]
  split_ifs <;> simp [extend]

theorem hasNul_extend (path : Path) (more : Bytes) :
    (path.extend more).bytes.hasNul = (path.bytes.hasNul || more.hasNul) := by
  have hsep : Bytes.nul ≠ separator := by decide
  simp [extend, Bytes.hasNul, hsep]

theorem hasNul_join_of_relative (directory : Path) (h : isAbsolute ⟨more⟩ = false) :
    (directory.join ⟨more⟩).bytes.hasNul = (directory.bytes.hasNul || more.hasNul) := by
  have hrelative : ¬ isAbsolute ⟨more⟩ = true := by simp [h]
  have hsep : Bytes.nul ≠ separator := by decide
  unfold join
  rw [if_neg hrelative]
  split_ifs <;> simp [Bytes.hasNul, hsep]

theorem join_ne_nil (h : path.bytes ≠ []) (directory : Path) : (directory.join path).bytes ≠ [] := by
  unfold join
  split_ifs <;> simp [h]

end Path

namespace FileSystem

variable {fs : FileSystem} {start start' found middle : Location} {path : Path} {more : Bytes}

/-- The way from the root goes on as the path does. -/
theorem partsFromRoot_extend (h : path.bytes ≠ []) :
    fs.partsFromRoot start (path.extend more)
      = (fs.partsFromRoot start path).map (· ++ Path.segments ⟨more⟩) := by
  unfold partsFromRoot
  rw [Path.isAbsolute_extend h, Path.segments_extend]
  split_ifs
  · rfl
  · rcases fs.currentPath? start with _ | here
    · rfl
    · show Except.ok (here.segments ++ (path.segments ++ Path.segments ⟨more⟩))
        = Except.ok (here.segments ++ path.segments ++ Path.segments ⟨more⟩)
      rw [List.append_assoc]

/-- **A path that goes on** leads to where the rest leads from where the path does. -/
theorem PathLeads.extend_iff (h : fs.PathLeads start path middle) :
    fs.PathLeads start (path.extend more) found ↔
      more.hasNul = false ∧ fs.Leads middle (Path.segments ⟨more⟩) found := by
  obtain ⟨parts, hparts, hleads⟩ := h.walked
  have hextended : fs.partsFromRoot start (path.extend more)
      = .ok (parts ++ Path.segments ⟨more⟩) := by
    rw [partsFromRoot_extend h.not_empty, hparts]
    rfl
  have hnul : (path.extend more).bytes.hasNul = more.hasNul := by
    rw [Path.hasNul_extend, h.no_nul, Bool.false_or]
  constructor
  · intro hmore
    obtain ⟨parts', hparts', hleads'⟩ := hmore.walked
    rw [hextended] at hparts'
    cases hparts'
    exact ⟨hnul ▸ hmore.no_nul, hleads.append_iff.1 hleads'⟩
  · rintro ⟨hmore, hrest⟩
    have hfull : (path.extend more).bytes ≠ [] := by simp [Path.extend]
    exact ⟨hnul.trans hmore, hfull, _, hextended, hleads.append_iff.2 hrest⟩

/-- **A path read from a canonical one** is walked from where that leads. -/
theorem PathLeads.join_iff (h : fs.PathLeads start path middle)
    (hnul : middle.path.bytes.hasNul = false) (hfull : more ≠ [])
    (hrelative : Path.isAbsolute ⟨more⟩ = false) :
    fs.PathLeads start' (middle.path.join ⟨more⟩) found ↔
      more.hasNul = false ∧ fs.Leads middle (Path.segments ⟨more⟩) found := by
  have habsolute := Path.isAbsolute_join middle.isAbsolute_path ⟨more⟩
  obtain ⟨front, hsegments, hfront⟩ := Path.segments_join middle.path hrelative
  have hparts : fs.partsFromRoot start' (middle.path.join ⟨more⟩)
      = .ok (front ++ Path.segments ⟨more⟩) := by
    rw [partsFromRoot, if_pos habsolute, hsegments]
  -- An empty part at the end of the canonical path makes no difference.
  have hmiddle : fs.Leads .root front middle := by
    have hcanonical := h.canonical
    rcases hfront with hfront | hfront
    · rwa [← hfront]
    · rw [hfront, leads_append_iff] at hcanonical
      obtain ⟨middle', hleads, hlast⟩ := hcanonical
      rw [leads_blank_iff (by rfl)] at hlast
      rwa [hlast.2]
  have hsame : (middle.path.join ⟨more⟩).bytes.hasNul = more.hasNul := by
    rw [Path.hasNul_join_of_relative _ hrelative, hnul, Bool.false_or]
  constructor
  · intro hmore
    obtain ⟨parts, hparts', hleads⟩ := hmore.walked
    rw [hparts] at hparts'
    cases hparts'
    exact ⟨hsame ▸ hmore.no_nul, hmiddle.append_iff.1 hleads⟩
  · rintro ⟨hmore, hrest⟩
    exact ⟨hsame.trans hmore, Path.join_ne_nil hfull _, _, hparts, hmiddle.append_iff.2 hrest⟩

end FileSystem

end CommandShell
