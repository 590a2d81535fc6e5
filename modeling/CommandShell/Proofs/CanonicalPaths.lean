import CommandShell.Host
import CommandShell.Proofs.PlainNames

namespace CommandShell

/-!
# CanonicalPaths — the path of a location leads back to it

Canonicalizing a path gives the location that it leads to, every link followed. The path of that
location has no links, blank parts or ways up, so walking it leads to the same location:

* `FileSystem.Straight` — a location reached by names alone, none of them that of a link;
* `FileSystem.Straight.of_walk` — every walk from the root ends at one;
* `FileSystem.canonicalize_canonical` — a canonical path is its own canonical path;
* `Host.changeDirectory_canonical` — a process that moves to it is where it leads.
-/

namespace Path

/-- The parts of a path hold no separators. -/
theorem not_mem_of_mem_segments {path : Path} {segment : Bytes} (h : segment ∈ path.segments) :
    separator ∉ segment :=
  Bytes.not_mem_of_mem_splitOn h

/-- A path has a part, be it blank. -/
theorem segments_ne_nil (path : Path) : path.segments ≠ [] :=
  Bytes.splitOn_ne_nil separator path.bytes

end Path

namespace Location

variable {at' : Location} {name : Bytes} {id : NodeId}

/-- The names on the way from the root. -/
def names (at' : Location) : List Bytes := at'.steps.reverse.map (·.1)

@[simp] theorem names_root : Location.root.names = [] := rfl

@[simp] theorem names_child (at' : Location) (name : Bytes) (id : NodeId) :
    (at'.child name id).names = at'.names ++ [name] := by
  simp [names, child]

/-- The path of a location starts at the root. -/
theorem isAbsolute_path (at' : Location) : at'.path.isAbsolute = true := by
  simp [path, Path.isAbsolute]

/-- Its parts are the names of the way, after an empty one. -/
theorem segments_path (h : ∀ name ∈ at'.names, Path.separator ∉ name) :
    at'.path.segments = [] :: if at'.names = [] then [[]] else at'.names := by
  have hcons : at'.path.segments
      = [] :: Bytes.splitOn Path.separator (Bytes.joinWith Path.separator at'.names) :=
    Bytes.splitOn_append_cons [] (Bytes.joinWith Path.separator at'.names)
  rw [hcons]
  split_ifs with hnames
  · rw [hnames]
    rfl
  · rw [Bytes.joinWith, Bytes.splitOn_eq, List.splitOn_intercalate Path.separator h hnames]

end Location

namespace FileSystem

variable {fs : FileSystem} {start at' found : Location} {path : Path} {links : Nat}
  {parts : List Bytes}

/-! ### Locations without links -/

/-- A way from the root on which every step goes to the entry of a name, and to no link. -/
inductive Straight (fs : FileSystem) : Location → Prop
  /-- The way to the root has no steps. -/
  | root : Straight fs .root
  /-- One step further. -/
  | child {at' : Location} {name : Bytes} {id : NodeId} {entries : List (Bytes × NodeId)} :
      Straight fs at' → fs.entries? at'.node = some entries → lookup entries name = some id →
      Path.isBlank name = false → name ≠ Path.above → name.length ≤ nameLimit →
      Path.separator ∉ name → (∀ target, fs.node? id ≠ some (.link target)) →
      Straight fs (at'.child name id)

namespace Straight

/-- What is above it is reached in the same way. -/
theorem parent (h : fs.Straight at') : fs.Straight at'.parent := by
  cases h with
  | root => exact .root
  | child h => exact h

theorem not_mem_names (h : fs.Straight at') : ∀ name ∈ at'.names, Path.separator ∉ name := by
  induction h with
  | root => simp
  | child _ _ _ _ _ _ hone _ ih =>
    intro name hname
    rw [Location.names_child, List.mem_append, List.mem_singleton] at hname
    rcases hname with hname | rfl
    · exact ih name hname
    · exact hone

/-- **Walks** from such a location end at one: a link is not gone into but replaced. -/
theorem of_walk (h : fs.Straight at') (hparts : ∀ part ∈ parts, Path.separator ∉ part)
    (hwalk : fs.walk links at' parts = .ok found) : fs.Straight found := by
  -- The names that are walked are parts of the path or of the target of a link.
  fun_induction walk fs links at' parts with
  | case1 links at' =>
    cases hwalk
    exact h
  | case2 | case5 | case6 | case7 => cases hwalk
  | case3 links at' part rest entries hentries hblank ih =>
    exact ih h (fun p hp => hparts p (List.mem_cons_of_mem _ hp)) hwalk
  | case4 links at' rest entries hentries hblank ih =>
    exact ih h.parent (fun p hp => hparts p (List.mem_cons_of_mem _ hp)) hwalk
  | case8 at' part rest entries hentries hblank habove hlength id hlookup target hlink links ih =>
    refine ih ?_ (fun p hp => ?_) hwalk
    · split_ifs
      · exact .root
      · exact h
    · rcases List.mem_append.1 hp with hp | hp
      · exact Path.not_mem_of_mem_segments hp
      · exact hparts p (List.mem_cons_of_mem _ hp)
  | case9 links at' part rest entries hentries hblank habove hlength id hlookup hlink ih =>
    have hone : Path.separator ∉ part := hparts part List.mem_cons_self
    refine ih (.child h hentries hlookup ?_ habove ?_ hone hlink)
      (fun p hp => hparts p (List.mem_cons_of_mem _ hp)) hwalk
    · simpa using hblank
    · exact Nat.le_of_not_lt hlength

/-- Its names lead to it from the root, whatever comes after them. -/
theorem walk_names (h : fs.Straight at') (links : Nat) (rest : List Bytes) :
    fs.walk links .root (at'.names ++ rest) = fs.walk links at' rest := by
  -- The last name is walked from what the others lead to, so they come first.
  induction h generalizing rest with
  | root => rfl
  | child _ hentries hlookup hblank habove hlength _ hlink ih =>
    rw [Location.names_child, List.append_assoc, List.singleton_append, ih,
      walk_entry hentries (by simp [hblank]) habove (Nat.not_lt.2 hlength) hlookup hlink]

/-- **Its path** leads to it from the root. -/
theorem walk_path (h : fs.Straight at') {entries : List (Bytes × NodeId)}
    (hroot : fs.entries? Location.root.node = some entries) (links : Nat) :
    fs.walk links .root at'.path.segments = .ok at' := by
  rw [Location.segments_path h.not_mem_names, walk_blank hroot (by rfl)]
  split_ifs with hnames
  · -- Only the way to the root has no names.
    cases h with
    | root => rw [walk_blank hroot (by rfl), walk_nil]
    | child => simp at hnames
  · have hwalk := h.walk_names links []
    rwa [List.append_nil, walk_nil] at hwalk

/-- So the path leads there wherever it is read, if the system looks at it at all. -/
theorem locate (h : fs.Straight at') {entries : List (Bytes × NodeId)}
    (hroot : fs.entries? Location.root.node = some entries)
    (hcheck : checkPath at'.path = .ok ()) (start : Location) :
    fs.locate start at'.path = .ok at' := by
  refine locate_eq_ok.2 ⟨hcheck, ?_⟩
  rw [startOf, if_pos at'.isAbsolute_path]
  exact h.walk_path hroot linkLimit

theorem canonicalize (h : fs.Straight at') {entries : List (Bytes × NodeId)}
    (hroot : fs.entries? Location.root.node = some entries)
    (hcheck : checkPath at'.path = .ok ()) (hnul : at'.path.bytes.hasNul = false)
    (start : Location) : fs.canonicalize start at'.path = .ok at' := by
  rw [canonicalize_of_absolute at'.isAbsolute_path]
  exact guarded_eq_ok.2 ⟨hnul, h.locate hroot hcheck start⟩

end Straight

/-! ### Canonical paths -/

/-- The way from the root has parts, which hold no separators: they are those of one path or of
    two. -/
theorem partsFromRoot_parts (h : fs.partsFromRoot start path = .ok parts) :
    parts ≠ [] ∧ ∀ part ∈ parts, Path.separator ∉ part := by
  unfold partsFromRoot at h
  split at h
  · cases h
    exact ⟨path.segments_ne_nil, fun _ => Path.not_mem_of_mem_segments⟩
  · split at h
    · rename_i here _
      cases h
      refine ⟨fun hnil => here.segments_ne_nil (List.append_eq_nil_iff.1 hnil).1, ?_⟩
      intro part hpart
      rcases List.mem_append.1 hpart with hpart | hpart
      · exact Path.not_mem_of_mem_segments hpart
      · exact Path.not_mem_of_mem_segments hpart
    · cases h

/-- What a path is found to lead to is reached without links, and below a root directory. -/
theorem canonicalize_straight (h : fs.canonicalize start path = .ok found) :
    fs.Straight found ∧ ∃ entries, fs.entries? Location.root.node = some entries := by
  obtain ⟨-, hask⟩ := guarded_eq_ok.1 h
  rcases hcheck : checkPath path with reason | ⟨⟩
  · rw [hcheck] at hask
    cases hask
  rcases hparts : fs.partsFromRoot start path with reason | parts
  · rw [hcheck, hparts] at hask
    cases hask
  rw [hcheck, hparts] at hask
  have hwalk : fs.walk linkLimit .root parts = .ok found := hask
  obtain ⟨hsome, hone⟩ := partsFromRoot_parts hparts
  refine ⟨Straight.root.of_walk hone hwalk, ?_⟩
  obtain ⟨part, rest, rfl⟩ := List.exists_cons_of_ne_nil hsome
  exact walk_cons_eq_ok hwalk

/-- The path of a location that was found leads to it, if the system looks at the path at all. -/
theorem locate_canonical (h : fs.canonicalize start path = .ok found)
    (hcheck : checkPath found.path = .ok ()) (start' : Location) :
    fs.locate start' found.path = .ok found := by
  obtain ⟨hstraight, entries, hroot⟩ := canonicalize_straight h
  exact hstraight.locate hroot hcheck start'

/-- **A canonical path** is its own canonical path, wherever it is read. -/
theorem canonicalize_canonical (h : fs.canonicalize start path = .ok found)
    (hcheck : checkPath found.path = .ok ()) (hnul : found.path.bytes.hasNul = false)
    (start' : Location) : fs.canonicalize start' found.path = .ok found := by
  obtain ⟨hstraight, entries, hroot⟩ := canonicalize_straight h
  exact hstraight.canonicalize hroot hcheck hnul start'

end FileSystem

/-- A process moves to a path that leads to a directory. -/
theorem Host.changeDirectory_eq_ok {h host : Host} {path : Path} :
    h.changeDirectory path = .ok host ↔
      path.bytes.hasNul = false ∧ ∃ found, h.world.files.locate h.directory path = .ok found ∧
        h.world.files.isDirectory found.node = true ∧ host = { h with directory := found } := by
  unfold changeDirectory
  rw [FileSystem.guarded_eq_ok]
  refine and_congr_right fun _ => ?_
  rcases h.world.files.locate h.directory path with reason | found
  · simp [bind, Except.bind]
  · show (if h.world.files.isDirectory found.node = true
      then Except.ok { h with directory := found } else Except.error Errno.notDirectory)
        = Except.ok host ↔ _
    constructor
    · intro hask
      split_ifs at hask with hdirectory
      exact ⟨found, rfl, hdirectory, (Except.ok.inj hask).symm⟩
    · rintro ⟨_, ⟨⟩, hdirectory, rfl⟩
      rw [if_pos hdirectory]

/-- **A process** that moves to a canonical path is where that path was found to lead, and the path
    is canonical still. -/
theorem Host.changeDirectory_canonical {h host : Host} {start found : Location} {path : Path}
    (hfound : h.world.files.canonicalize start path = .ok found)
    (hmoves : h.changeDirectory found.path = .ok host) :
    host = { h with directory := found } ∧
      ∀ start', h.world.files.canonicalize start' found.path = .ok found := by
  obtain ⟨hnul, found', hlocate, -, rfl⟩ := changeDirectory_eq_ok.1 hmoves
  obtain ⟨hcheck, -⟩ := FileSystem.locate_eq_ok.1 hlocate
  rw [FileSystem.locate_canonical hfound hcheck] at hlocate
  cases hlocate
  exact ⟨rfl, FileSystem.canonicalize_canonical hfound hcheck hnul⟩

end CommandShell
