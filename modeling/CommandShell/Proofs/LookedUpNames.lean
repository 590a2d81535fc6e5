import CommandShell.Proofs.CanonicalPaths
import CommandShell.Proofs.OpenedDirectives
import CommandShell.Proofs.TargetFiles

namespace CommandShell

/-!
# LookedUpNames — the names that matter to a path

What a path leads to is a matter of the names that are looked up on the way. A file that comes up
under another name makes no difference to it, and neither do the bytes of files:

* `FileSystem.LooksUp`, `FileSystem.PathLooksUp` — the names that a walk and a path look up;
* `FileSystem.NamesAlike` — file systems with the same names, but for some;
  `FileSystem.NamesAlike.walk_eq`, `FileSystem.NamesAlike.canonicalize_eq` — paths that look up none
  of those lead to the same;
* `FileSystem.OpensTo` — what opening a file for writing does;
  `FileSystem.openOutput_opensTo` — it does nothing else;
* `FileSystem.OpensTo.namesAlike`, `FileSystem.OpensTo.device_or_file`,
  `FileSystem.OpensTo.readability_eq` — what that means for names and for bytes.
-/

/-- The way to a location goes by the name in the directory. -/
def Location.GoesBy (at' : Location) (directory : NodeId) (name : Bytes) : Prop :=
  ∃ id above, (name, id) :: above <:+ at'.steps ∧ Location.node ⟨above⟩ = directory

namespace FileSystem

/-- A walk looks the name up in the directory. -/
inductive LooksUp (fs : FileSystem) (directory : NodeId) (name : Bytes) :
    (links : Nat) → Location → (parts : List Bytes) → Prop
  /-- The name is the next part of the way. -/
  | next {links at' rest} : at'.node = directory →
      LooksUp fs directory name links at' (name :: rest)
  /-- It comes after a part that leads nowhere. -/
  | blank {links at' part rest} : Path.isBlank part → LooksUp fs directory name links at' rest →
      LooksUp fs directory name links at' (part :: rest)
  /-- It comes after a way up. -/
  | above {links at' rest} : LooksUp fs directory name links at'.parent rest →
      LooksUp fs directory name links at' (Path.above :: rest)
  /-- It comes after a link. -/
  | link {links at' part rest id target} : fs.named? at'.node part = some id →
      fs.node? id = some (.link target) →
      LooksUp fs directory name links (if target.isAbsolute then .root else at')
        (target.segments ++ rest) →
      LooksUp fs directory name (links + 1) at' (part :: rest)
  /-- It comes after another entry. -/
  | entry {links at' part rest id} : fs.named? at'.node part = some id →
      (∀ target, fs.node? id ≠ some (.link target)) →
      LooksUp fs directory name links (at'.child part id) rest →
      LooksUp fs directory name links at' (part :: rest)

/-- To find out where a path leads, the name is looked up in the directory: on the way from the
    root, or where a relative path is read. -/
def PathLooksUp (fs : FileSystem) (start : Location) (path : Path) (directory : NodeId)
    (name : Bytes) : Prop :=
  (path.isAbsolute = false ∧ start.GoesBy directory name) ∨
    ∃ parts, fs.partsFromRoot start path = .ok parts ∧
      fs.LooksUp directory name linkLimit .root parts

/-! ### File systems with the same names -/

/-- The directories of two file systems have the same names, but for some, and the same links. -/
structure NamesAlike (fs fs' : FileSystem) (besides : NodeId → Bytes → Prop) : Prop where
  /-- The same nodes are directories. -/
  directory : ∀ id, fs'.isDirectory id = fs.isDirectory id
  /-- The same nodes are links, and to the same targets. -/
  link_iff : ∀ id target, fs'.node? id = some (.link target) ↔ fs.node? id = some (.link target)
  /-- Every other name stands for the same node. -/
  named : ∀ id name, ¬ besides id name → fs'.named? id name = fs.named? id name

namespace NamesAlike

variable {fs fs' : FileSystem} {besides : NodeId → Bytes → Prop} {links : Nat}
  {at' start : Location} {parts : List Bytes} {path : Path} {id : NodeId}
  {entries : List (Bytes × NodeId)}

theorem refl (fs : FileSystem) (besides : NodeId → Bytes → Prop) : NamesAlike fs fs besides :=
  ⟨fun _ => rfl, fun _ _ => Iff.rfl, fun _ _ _ => rfl⟩

theorem entries?_of_none (h : NamesAlike fs fs' besides) (hnone : fs.entries? id = none) :
    fs'.entries? id = none := by
  have hsame := h.directory id
  rw [isDirectory, isDirectory, hnone] at hsame
  exact Option.not_isSome_iff_eq_none.1 (by simp [hsame])

/-- A directory is one in both, and has the same under a name that a walk looks up next. -/
theorem entries?_of_some (h : NamesAlike fs fs' besides)
    (hentries : fs.entries? at'.node = some entries) {part : Bytes} {rest : List Bytes}
    (hnot : ∀ id name, besides id name → ¬ fs.LooksUp id name links at' (part :: rest)) :
    ∃ entries', fs'.entries? at'.node = some entries' ∧
      lookup entries' part = lookup entries part := by
  have hsame := h.directory at'.node
  rw [isDirectory, isDirectory, hentries] at hsame
  obtain ⟨entries', hentries'⟩ := Option.isSome_iff_exists.1 hsame
  have hnamed := h.named at'.node part fun hname => hnot _ _ hname (.next rfl)
  rw [named?, named?, hentries, hentries'] at hnamed
  exact ⟨entries', hentries', hnamed⟩

/-- **Walks** that look up none of the other names lead to the same. -/
theorem walk_eq (h : NamesAlike fs fs' besides)
    (hnot : ∀ id name, besides id name → ¬ fs.LooksUp id name links at' parts) :
    fs'.walk links at' parts = fs.walk links at' parts := by
  have hname : ∀ {id : NodeId} {entries : List (Bytes × NodeId)},
      fs.entries? id = some entries → ∀ name, fs.named? id name = lookup entries name := by
    intro id entries hentries name
    rw [named?, hentries, Option.bind_some]
  fun_induction walk fs links at' parts with
  | case1 links at' => rw [walk_nil]
  | case2 links at' part rest hnone => rw [walk, h.entries?_of_none hnone]
  | case3 links at' part rest entries hentries hblank ih =>
    obtain ⟨entries', hentries', -⟩ := h.entries?_of_some hentries hnot
    rw [walk_blank hentries' hblank]
    exact ih fun id name hbesides hlooks => hnot id name hbesides (.blank hblank hlooks)
  | case4 links at' rest entries hentries hblank ih =>
    obtain ⟨entries', hentries', -⟩ := h.entries?_of_some hentries hnot
    rw [walk_above hentries']
    exact ih fun id name hbesides hlooks => hnot id name hbesides (.above hlooks)
  | case5 links at' part rest entries hentries hblank habove hlength =>
    obtain ⟨entries', hentries', -⟩ := h.entries?_of_some hentries hnot
    rw [walk, hentries']
    simp only [if_neg hblank, if_neg habove, if_pos hlength]
  | case6 links at' part rest entries hentries hblank habove hlength hlookup =>
    obtain ⟨entries', hentries', hsame⟩ := h.entries?_of_some hentries hnot
    rw [walk, hentries']
    simp only [if_neg hblank, if_neg habove, if_neg hlength, hsame, hlookup]
  | case7 at' part rest entries hentries hblank habove hlength id hlookup target hlink =>
    obtain ⟨entries', hentries', hsame⟩ := h.entries?_of_some hentries hnot
    rw [walk, hentries']
    simp only [if_neg hblank, if_neg habove, if_neg hlength, hsame, hlookup,
      (h.link_iff id target).2 hlink]
  | case8 at' part rest entries hentries hblank habove hlength id hlookup target hlink links ih =>
    obtain ⟨entries', hentries', hsame⟩ := h.entries?_of_some hentries hnot
    have hnamed := (hname hentries part).trans hlookup
    rw [walk_link hentries' hblank habove hlength (hsame.trans hlookup)
      ((h.link_iff id target).2 hlink)]
    exact ih fun id name hbesides hlooks => hnot id name hbesides (.link hnamed hlink hlooks)
  | case9 links at' part rest entries hentries hblank habove hlength id hlookup hlink ih =>
    obtain ⟨entries', hentries', hsame⟩ := h.entries?_of_some hentries hnot
    have hnamed := (hname hentries part).trans hlookup
    have hlink' : ∀ target, fs'.node? id ≠ some (.link target) :=
      fun target htarget => hlink target ((h.link_iff id target).1 htarget)
    rw [walk_entry hentries' hblank habove hlength (hsame.trans hlookup) hlink']
    exact ih fun id name hbesides hlooks => hnot id name hbesides (.entry hnamed hlink hlooks)

/-- A location that does not go by one of the other names is current in both, or in neither. -/
theorem isCurrent_eq (h : NamesAlike fs fs' besides) {steps : List (Bytes × NodeId)}
    (hnot : ∀ id name, besides id name → ¬ Location.GoesBy ⟨steps⟩ id name) :
    fs'.isCurrent steps = fs.isCurrent steps := by
  induction steps with
  | nil => rfl
  | cons step above ih =>
    obtain ⟨name, id⟩ := step
    have hother : ¬ besides (Location.node ⟨above⟩) name := fun hname =>
      hnot _ _ hname ⟨id, above, List.suffix_rfl, rfl⟩
    have habove := ih fun id' name' hname ⟨child, rest, hsuffix, hnode⟩ =>
      hnot id' name' hname ⟨child, rest, hsuffix.trans (List.suffix_cons ..), hnode⟩
    have hnamed : (fs'.entries? (Location.node ⟨above⟩)).bind (lookup · name)
        = (fs.entries? (Location.node ⟨above⟩)).bind (lookup · name) := h.named _ name hother
    rw [isCurrent, isCurrent, habove, hnamed]

/-- **Paths** that look up none of the other names lead to the same. -/
theorem canonicalize_eq (h : NamesAlike fs fs' besides)
    (hnot : ∀ id name, besides id name → ¬ fs.PathLooksUp start path id name) :
    fs'.canonicalize start path = fs.canonicalize start path := by
  have hparts : fs'.partsFromRoot start path = fs.partsFromRoot start path := by
    unfold partsFromRoot currentPath?
    by_cases habsolute : path.isAbsolute = true
    · rw [if_pos habsolute, if_pos habsolute]
    · have hsteps : fs'.isCurrent start.steps = fs.isCurrent start.steps :=
        h.isCurrent_eq fun id name hname hgoes =>
          hnot id name hname (.inl ⟨by simpa using habsolute, hgoes⟩)
      rw [hsteps]
  unfold canonicalize
  rw [hparts]
  rcases hfrom : fs.partsFromRoot start path with reason | parts
  · rfl
  · have hwalk : fs'.walk linkLimit .root parts = fs.walk linkLimit .root parts :=
      h.walk_eq fun id name hname hlooks => hnot id name hname (.inr ⟨parts, hfrom, hlooks⟩)
    simp only [bind, Except.bind, hwalk]

end NamesAlike

/-! ### Opening a file for writing -/

variable {fs files : FileSystem} {mask : Nat} {start : Location} {path : Path} {truncate : Bool}
  {id : NodeId}

/-- Opening the path for writing makes a file, under that name in that directory. -/
def Makes (fs : FileSystem) (start : Location) (path : Path) (directory : NodeId)
    (name : Bytes) : Prop :=
  ∃ place, fs.locateNew start path = .ok (.vacant place name) ∧ place.node = directory

/-- What opening a path for writing does: the files afterwards, and the node that is opened. -/
inductive OpensTo (fs : FileSystem) (mask : Nat) (start : Location) (path : Path) (truncate : Bool) :
    FileSystem → NodeId → Prop
  /-- A file is made. -/
  | made {place : Location} {entries : List (Bytes × NodeId)} {name : Bytes} :
      fs.locateNew start path = .ok (.vacant place name) →
      fs.node? place.node = some (.directory entries) → lookup entries name = none →
      OpensTo fs mask start path truncate
        (fs.addEntry place.node name (.file (outputMode mask) [])).1 fs.nodes.size
  /-- A file that is there is emptied, or not. -/
  | there {id : NodeId} {mode : Nat} {content : Bytes} :
      fs.node? id = some (.file mode content) →
      OpensTo fs mask start path truncate
        (fs.setNode id (.file mode (if truncate then [] else content))) id
  /-- To a device nothing is done. -/
  | device {id : NodeId} {kind : Device} : fs.node? id = some (.device kind) →
      OpensTo fs mask start path truncate fs id

/-- Whether a node can be read, or why not. -/
def readability (fs : FileSystem) (id : NodeId) : Except Errno Unit :=
  (fs.content id).map fun _ => ()

/-- **Opening** a path for writing does one of these. -/
theorem openOutput_opensTo (h : fs.openOutput mask start path truncate = .ok (files, id)) :
    fs.OpensTo mask start path truncate files id := by
  obtain ⟨-, hopen⟩ := guarded_eq_ok.1 h
  unfold openForWriting at hopen
  rcases hplace : fs.locateNew start path with reason | ⟨id'⟩ | ⟨place, name⟩
  · rw [hplace] at hopen
    cases hopen
  · simp only [hplace, bind, Except.bind] at hopen
    split at hopen
    · rename_i hfile
      cases hopen
      exact .there hfile
    · rename_i hdevice
      cases hopen
      exact .device hdevice
    · cases hopen
  · simp only [hplace, bind, Except.bind] at hopen
    obtain ⟨-, hreaches⟩ := locateNew_eq_ok.1 hplace
    obtain ⟨entries, hentries, hlookup⟩ := hreaches.exists_entries
    have hadded := Except.ok.inj hopen
    obtain ⟨hid, -⟩ := addEntry_spec hentries name (.file (outputMode mask) [])
    have hfiles : files = (fs.addEntry place.node name (.file (outputMode mask) [])).1 := by
      rw [hadded]
    have hnode : id = fs.nodes.size := by rw [← hid, hadded]
    rw [hfiles, hnode]
    exact .made hplace hentries hlookup

namespace OpensTo

/-- No name changes, but for that of a file that is made. -/
theorem namesAlike (h : fs.OpensTo mask start path truncate files id) :
    NamesAlike fs files (fs.Makes start path) := by
  cases h with
  | @made place entries name hplace hentries hfree =>
    obtain ⟨-, hnode?⟩ := addEntry_spec hentries name (.file (outputMode mask) [])
    have hentries? : ∀ id, id ≠ place.node →
        (fs.addEntry place.node name (.file (outputMode mask) [])).1.entries? id
          = fs.entries? id := by
      intro id hid
      rw [entries?, hnode?, if_neg hid]
      split_ifs with hnew
      · -- The node that is new is no directory, and there was none before.
        rw [entries?, hnew, node?_size]
      · rfl
    refine ⟨fun id => ?_, fun id target => ?_, fun id name' hother => ?_⟩
    · by_cases hid : id = place.node
      · rw [hid, isDirectory, isDirectory, entries?, hnode?, if_pos rfl, entries?, hentries]
        rfl
      · rw [isDirectory, isDirectory, hentries? id hid]
    · rw [hnode?]
      split_ifs with hid hnew
      · rw [hid, hentries]
        simp
      · rw [hnew, node?_size]
        simp
      · rfl
    · by_cases hid : id = place.node
      · have hname : name ≠ name' := by
          rintro rfl
          exact hother ⟨place, hplace, hid.symm⟩
        rw [hid, named?_addEntry hentries, if_neg hname, Option.or_none]
      · rw [named?, named?, hentries? id hid]
  | @there id mode content hfile =>
    have hself := node?_setNode_self hfile (.file mode (if truncate then [] else content))
    have hentries? : ∀ id', (fs.setNode id (.file mode (if truncate then [] else content))).entries?
        id' = fs.entries? id' := by
      intro id'
      by_cases hid : id' = id
      · rw [hid, entries?, hself, entries?, hfile]
      · rw [entries?, node?_setNode_of_ne hid, entries?]
    refine ⟨fun id' => ?_, fun id' target => ?_, fun id' name _ => ?_⟩
    · rw [isDirectory, isDirectory, hentries?]
    · by_cases hid : id' = id
      · rw [hid, hself, hfile]
        simp
      · rw [node?_setNode_of_ne hid]
    · rw [named?, named?, hentries?]
  | device => exact .refl fs _

/-- What is opened is a device, or a file with the bytes that it had, unless they are taken away; a
    new file has none. -/
theorem device_or_file (h : fs.OpensTo mask start path truncate files id) :
    (∃ kind, files.node? id = some (.device kind)) ∨
      ∃ mode, files.node? id
        = some (.file mode (if truncate then [] else (fs.bytes? id).getD [])) := by
  cases h with
  | @made place entries name hplace hentries hfree =>
    obtain ⟨-, hnode?⟩ := addEntry_spec hentries name (.file (outputMode mask) [])
    have hne := Nat.ne_of_gt (lt_size_of_node? hentries)
    refine .inr ⟨outputMode mask, ?_⟩
    rw [hnode?, if_neg hne, if_pos rfl, bytes?, node?_size]
    simp
  | @there id mode content hold =>
    refine .inr ⟨mode, ?_⟩
    rw [node?_setNode_self hold, bytes?_of_file hold]
    rfl
  | device hdevice => exact .inl ⟨_, hdevice⟩

/-- What could be read can be read still, and what could not cannot, for the same reason. -/
theorem readability_eq (h : fs.OpensTo mask start path truncate files id) {id' : NodeId}
    (hthere : fs.node? id' ≠ none) : files.readability id' = fs.readability id' := by
  unfold readability
  cases h with
  | @made place entries name hplace hentries hfree =>
    obtain ⟨-, hnode?⟩ := addEntry_spec hentries name (.file (outputMode mask) [])
    have hold : id' ≠ fs.nodes.size := by
      rintro rfl
      exact hthere fs.node?_size
    rw [content, hnode?]
    split_ifs with hid
    · rw [hid, content, hentries]
    · rfl
  | @there id mode content hfile =>
    by_cases hid : id' = id
    · rw [hid, FileSystem.content, node?_setNode_self hfile, FileSystem.content, hfile]
      rfl
    · rw [FileSystem.content, node?_setNode_of_ne hid, FileSystem.content]
  | device => rfl

end OpensTo

end FileSystem

end CommandShell
