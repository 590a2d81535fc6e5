import CommandShell.Proofs.OpenedDirectives
import CommandShell.Proofs.PlainNames
import Mathlib.Data.List.Induction

namespace CommandShell

/-!
# TargetFiles — the files that directives name

Directives name files of the session's directory. This file follows these files while directives
are opened and bytes are written:

* `FileSystem.fileIn?` — the bytes that a directory has under a name;
* `FileSystem.HasTargets` — a directory in which names can be redirected to: each of them is free or
  that of a regular file, and no two are those of one file;
* `FileSystem.Redirected` — what a file system keeps while that is done;
* `Redirection.opened` — what opening a directive does to the bytes under a name;
* `FileSystem.Redirected.opens` — a list of directives opens, and what it leaves.
-/

namespace FileSystem

/-! ### Bytes by name -/

/-- The node that a directory has under a name. -/
def named? (fs : FileSystem) (here : NodeId) (name : Bytes) : Option NodeId :=
  (fs.entries? here).bind (lookup · name)

/-- The bytes of a regular file. -/
def bytes? (fs : FileSystem) (id : NodeId) : Option Bytes :=
  match fs.node? id with
  | some (.file _ content) => some content
  | _ => none

/-- The bytes of the regular file that a directory has under a name. -/
def fileIn? (fs : FileSystem) (here : NodeId) (name : Bytes) : Option Bytes :=
  (fs.named? here name).bind fs.bytes?

variable {fs : FileSystem} {here id : NodeId} {entries : List (Bytes × NodeId)} {mode : Nat}
  {content : Bytes}

theorem named?_eq (h : fs.node? here = some (.directory entries)) (name : Bytes) :
    fs.named? here name = lookup entries name := by
  rw [named?, entries?, h]
  rfl

theorem bytes?_of_file (h : fs.node? id = some (.file mode content)) :
    fs.bytes? id = some content := by
  rw [bytes?, h]

theorem exists_file_of_bytes? (h : fs.bytes? id = some content) :
    ∃ mode, fs.node? id = some (.file mode content) := by
  unfold bytes? at h
  split at h
  · rename_i mode _ hfile
    cases h
    exact ⟨mode, hfile⟩
  · cases h

/-- Other bytes leave the names as they are. -/
theorem named?_setContent (h : fs.node? here = some (.directory entries))
    (hfile : fs.node? id = some (.file mode content)) (content' : Bytes) (name : Bytes) :
    (fs.setNode id (.file mode content')).named? here name = fs.named? here name := by
  have hne : here ≠ id := by
    rintro rfl
    rw [h] at hfile
    cases hfile
  rw [named?, named?, entries?, entries?, node?_setNode_of_ne hne]

theorem bytes?_setContent (hfile : fs.node? id = some (.file mode content)) (content' : Bytes)
    (id' : NodeId) :
    (fs.setNode id (.file mode content')).bytes? id'
      = if id' = id then some content' else fs.bytes? id' := by
  by_cases hid : id' = id
  · rw [if_pos hid, hid, bytes?, node?_setNode_self hfile]
  · rw [if_neg hid, bytes?, bytes?, node?_setNode_of_ne hid]

/-- A file that gets other bytes has them under its names. -/
theorem fileIn?_setContent (h : fs.node? here = some (.directory entries))
    (hfile : fs.node? id = some (.file mode content)) (content' : Bytes) (name : Bytes) :
    (fs.setNode id (.file mode content')).fileIn? here name
      = if fs.named? here name = some id then some content' else fs.fileIn? here name := by
  rw [fileIn?, named?_setContent h hfile, fileIn?]
  rcases fs.named? here name with _ | id'
  · simp
  · rw [Option.bind_some, Option.bind_some, bytes?_setContent hfile]
    by_cases hid : id' = id <;> simp [hid]

/-- A new entry has its name, unless that was taken. -/
theorem named?_addEntry (h : fs.node? here = some (.directory entries)) (name : Bytes)
    (node : Node) (name' : Bytes) :
    (fs.addEntry here name node).1.named? here name'
      = (fs.named? here name').or (if name = name' then some fs.nodes.size else none) := by
  have hhere := (addEntry_spec h name node).2 here
  rw [if_pos rfl] at hhere
  rw [named?_eq hhere, named?_eq h, lookup_append, lookup_singleton]

/-- A new file has its bytes under its name, and the other names keep theirs. -/
theorem fileIn?_addEntry (h : fs.node? here = some (.directory entries)) {name : Bytes}
    (hfree : fs.named? here name = none) (mode : Nat) (content : Bytes) {name' : Bytes}
    (hthere : fs.named? here name' ≠ some fs.nodes.size) :
    (fs.addEntry here name (.file mode content)).1.fileIn? here name'
      = if name' = name then some content else fs.fileIn? here name' := by
  obtain ⟨-, hnode?⟩ := addEntry_spec h name (.file mode content)
  have hsize : fs.nodes.size ≠ here := Nat.ne_of_gt (lt_size_of_node? h)
  rw [fileIn?, named?_addEntry h]
  by_cases hname : name' = name
  · subst hname
    rw [if_pos rfl, if_pos rfl, hfree, Option.none_or, Option.bind_some, bytes?, hnode?,
      if_neg hsize, if_pos rfl]
  · rw [if_neg hname, if_neg (Ne.symm hname), Option.or_none, fileIn?]
    rcases hid : fs.named? here name' with _ | id'
    · rfl
    · have hne : id' ≠ fs.nodes.size := fun heq => hthere (heq ▸ hid)
      rw [Option.bind_some, Option.bind_some, bytes?, bytes?, hnode?, if_neg hne]
      by_cases hhere : id' = here
      · rw [if_pos hhere, hhere, h]
      · rw [if_neg hhere]

/-! ### Names to redirect to -/

/-- An absolute directory in which each of some names can be redirected to: it is plain, and free or
    the name of a regular file, and no two of them are names of one file. -/
structure HasTargets (fs : FileSystem) (start : Location) (directory : Path) (here : Location)
    (names : List Bytes) : Prop where
  /-- The path leads to the directory. -/
  leads : ∃ entries, fs.IsDirectoryAt start directory here entries
  /-- The names are plain. -/
  plain : ∀ name ∈ names, directory.IsPlainIn name
  /-- A name that is not free is that of a regular file. -/
  regular : ∀ name ∈ names, ∀ id, fs.named? here.node name = some id →
    ∃ mode content, fs.node? id = some (.file mode content)
  /-- No two names are those of one file. -/
  distinct : ∀ name ∈ names, ∀ name' ∈ names, ∀ id, fs.named? here.node name = some id →
    fs.named? here.node name' = some id → name = name'

/-- A file system in which names were redirected to: still a directory for that, and grown, with
    the files under these names among those that may be written. -/
structure Redirected (start : Location) (directory : Path) (here : Location) (names : List Bytes)
    (written : List NodeId) (before fs : FileSystem) : Prop where
  /-- The names can be redirected to again. -/
  has : fs.HasTargets start directory here names
  /-- Nothing but the files is changed. -/
  grown : Grown here.node written before fs
  /-- The files that were under these names may be written. -/
  chosen : ∀ name ∈ names, ∀ id, before.named? here.node name = some id → id ∈ written
  /-- A file under a name was there under it, or was made under one of these names. -/
  origin : ∀ name id, fs.named? here.node name = some id →
    before.named? here.node name = some id ∨ name ∈ names ∧ before.node? id = none

namespace Redirected

variable {start here : Location} {directory : Path} {names : List Bytes} {written : List NodeId}
  {before fs : FileSystem} {name : Bytes} {id : NodeId} {mode : Nat} {content : Bytes}

/-- Nothing was redirected yet. -/
theorem refl (h : fs.HasTargets start directory here names)
    (hwritten : ∀ name ∈ names, ∀ id, fs.named? here.node name = some id → id ∈ written) :
    Redirected start directory here names written fs fs where
  has := h
  grown := by
    obtain ⟨entries, hat⟩ := h.leads
    exact Grown.refl hat.holds
  chosen := hwritten
  origin := fun _ _ hid => .inl hid

/-- The files under the names may be written. -/
theorem writable (h : Redirected start directory here names written before fs)
    (hname : name ∈ names) (hid : fs.named? here.node name = some id) :
    id ∈ written ∨ before.node? id = none := by
  rcases h.origin name id hid with hold | ⟨-, hnew⟩
  · exact .inl (h.chosen name hname id hold)
  · exact .inr hnew

/-- Names keep their files. -/
theorem named?_of_before (h : Redirected start directory here names written before fs)
    (hid : before.named? here.node name = some id) : fs.named? here.node name = some id := by
  obtain ⟨old, new, hbefore, hafter, -⟩ := h.grown.entered
  rw [named?_eq hbefore] at hid
  rw [named?_eq hafter, lookup_append, hid, Option.some_or]

/-- No other name is made. -/
theorem named?_other (h : Redirected start directory here names written before fs)
    (hname : name ∉ names) : fs.named? here.node name = before.named? here.node name := by
  rcases hid : fs.named? here.node name with _ | id
  · rcases hold : before.named? here.node name with _ | id
    · rfl
    · rw [h.named?_of_before hold] at hid
      cases hid
  · rcases h.origin name id hid with hold | ⟨hin, -⟩
    · exact hold.symm
    · exact absurd hin hname

/-- A file that may be written gets other bytes. -/
theorem setContent (h : Redirected start directory here names written before fs)
    (hfile : fs.node? id = some (.file mode content)) (hid : id ∈ written ∨ before.node? id = none)
    (content' : Bytes) :
    Redirected start directory here names written before (fs.setNode id (.file mode content')) := by
  obtain ⟨entries, hat⟩ := h.has.leads
  have hnamed := named?_setContent hat.holds hfile content'
  have hhere : here.node ≠ id := (h.grown.ne_here hfile).symm
  have hgrown : Grown here.node [id] fs (fs.setNode id (.file mode content')) :=
    (Grown.refl hat.holds).setContent hfile (.inl List.mem_cons_self) content'
  refine ⟨⟨⟨entries, hat.of_grown hgrown ?_⟩, h.has.plain, ?_, ?_⟩,
    h.grown.setContent hfile hid content', h.chosen, ?_⟩
  · rw [node?_setNode_of_ne hhere, hat.holds]
  · intro name hname id' hid'
    rw [hnamed] at hid'
    obtain ⟨mode', content'', hnode⟩ := h.has.regular name hname id' hid'
    by_cases heq : id' = id
    · exact ⟨mode, content', heq ▸ node?_setNode_self hfile _⟩
    · exact ⟨mode', content'', by rw [node?_setNode_of_ne heq, hnode]⟩
  · intro name hname name' hname' id' hid' hid''
    rw [hnamed] at hid' hid''
    exact h.has.distinct name hname name' hname' id' hid' hid''
  · intro name id' hid'
    rw [hnamed] at hid'
    exact h.origin name id' hid'

/-- No name is that of the next node. -/
theorem named?_ne_size (h : Redirected start directory here names written before fs)
    (hname : name ∈ names) : fs.named? here.node name ≠ some fs.nodes.size := by
  intro hsize
  obtain ⟨mode, content, hnode⟩ := h.has.regular name hname _ hsize
  rw [node?_size] at hnode
  cases hnode

/-- A file is made under a free name. -/
theorem addEntry (h : Redirected start directory here names written before fs)
    (hname : name ∈ names) (hfree : fs.named? here.node name = none) (mask : Nat)
    (content : Bytes) :
    Redirected start directory here names written before
      (fs.addEntry here.node name (.file (outputMode mask) content)).1 := by
  obtain ⟨entries, hat⟩ := h.has.leads
  have hlookup : lookup entries name = none := by rw [← named?_eq hat.holds, hfree]
  have hnode? := (addEntry_spec hat.holds name (.file (outputMode mask) content)).2
  have hsize : fs.nodes.size ≠ here.node := Nat.ne_of_gt (lt_size_of_node? hat.holds)
  have hgrown :
      Grown here.node [] fs (fs.addEntry here.node name (.file (outputMode mask) content)).1 :=
    (Grown.refl hat.holds).addEntry hat.holds hlookup mask content
  have hentries : (fs.addEntry here.node name (.file (outputMode mask) content)).1.node? here.node
      = some (.directory (entries ++ [(name, fs.nodes.size)])) := by rw [hnode?, if_pos rfl]
  -- A name has the node it had, or it is the new one.
  have hnamed : ∀ name' id,
      (fs.addEntry here.node name (.file (outputMode mask) content)).1.named? here.node name'
          = some id →
        fs.named? here.node name' = some id ∨ name' = name ∧ id = fs.nodes.size := by
    intro name' id hid
    rw [named?_addEntry hat.holds] at hid
    rcases Option.or_eq_some_iff.1 hid with hold | ⟨-, hnew⟩
    · exact .inl hold
    · split_ifs at hnew with heq
      cases hnew
      exact .inr ⟨heq.symm, rfl⟩
  refine ⟨⟨⟨_, hat.of_grown hgrown hentries⟩, h.has.plain, ?_, ?_⟩,
    h.grown.addEntry hat.holds hlookup mask content, h.chosen, ?_⟩
  · intro name' hname' id hid
    rcases hnamed name' id hid with hold | ⟨-, rfl⟩
    · obtain ⟨mode', content', hnode⟩ := h.has.regular name' hname' id hold
      have hid' : id ≠ fs.nodes.size := Nat.ne_of_lt (lt_size_of_node? hnode)
      have hhere : id ≠ here.node := h.grown.ne_here hnode
      exact ⟨mode', content', by rw [hnode?, if_neg hhere, if_neg hid', hnode]⟩
    · exact ⟨outputMode mask, content, by rw [hnode?, if_neg hsize, if_pos rfl]⟩
  · intro name' hname' name'' hname'' id hid hid'
    rcases hnamed name' id hid with hold | ⟨rfl, rfl⟩
    · rcases hnamed name'' id hid' with hold' | ⟨rfl, rfl⟩
      · exact h.has.distinct name' hname' name'' hname'' id hold hold'
      · exact absurd hold (h.named?_ne_size hname')
    · rcases hnamed name'' _ hid' with hold' | ⟨rfl, -⟩
      · exact absurd hold' (h.named?_ne_size hname'')
      · rfl
  · intro name' id hid
    rcases hnamed name' id hid with hold | ⟨rfl, rfl⟩
    · exact h.origin name' id hold
    · exact .inr ⟨hname, h.grown.node?_size⟩

end Redirected

end FileSystem

/-! ### Opening directives -/

namespace Redirection

open FileSystem

/-- The name that a directive gives its file. -/
def name (r : Redirection) : Bytes := r.path.bytes

/-- Whether a directive asks for a file to be written. -/
def isOutput (r : Redirection) : Bool := r.direction ≠ .input

/-- The bytes under a name once a directive is opened. -/
def opened (r : Redirection) (name : Bytes) (content : Option Bytes) : Option Bytes :=
  if name = r.name then
    match r.direction with
    | .input => content
    | .truncate => some []
    | .append => some (content.getD [])
  else content

/-- The directive whose file is read from: the last one that asks for a file to be read. -/
def lastInput? (rs : List Redirection) : Option Redirection := (rs.filter (!·.isOutput)).getLast?

/-- The directive whose file is written to: the last one that asks for a file to be written. -/
def lastOutput? (rs : List Redirection) : Option Redirection := (rs.filter (·.isOutput)).getLast?

variable {mask : Nat} {r : Redirection} {name : Bytes} {content : Option Bytes}

theorem direction_of_input (h : r.isOutput = false) : r.direction = .input := by
  simpa [isOutput] using h

theorem direction_of_output (h : r.isOutput = true) :
    r.direction = .truncate ∨ r.direction = .append := by
  rcases r with ⟨_ | _ | _, target⟩
  · cases h
  · exact .inl rfl
  · exact .inr rfl

/-- Opening a file to be read leaves it as it is. -/
theorem opened_input (h : r.isOutput = false) : r.opened name content = content := by
  rw [opened, direction_of_input h, ite_self]

/-- Opening a file to be written makes it where it is not there, and empties it if asked to. -/
theorem opened_output (h : r.isOutput = true) :
    r.opened name content
      = if name = r.name then some (if r.direction = .truncate then [] else content.getD [])
        else content := by
  rw [opened]
  rcases direction_of_output h with hr | hr <;> simp [hr]

theorem openIn_input (h : r.isOutput = false) (start : Location) (directory : Path)
    (fs : FileSystem) :
    r.openIn mask start directory fs
      = (fs.openInput start (directory.join ⟨r.name⟩)).map fun node => (fs, ⟨node, 0, false⟩) := by
  rw [openIn, direction_of_input h]
  rfl

theorem openIn_output (h : r.isOutput = true) (start : Location) (directory : Path)
    (fs : FileSystem) :
    r.openIn mask start directory fs
      = (fs.openOutput mask start (directory.join ⟨r.name⟩) (decide (r.direction = .truncate))).map
          fun o => (o.1, ⟨o.2, 0, decide (r.direction = .append)⟩) := by
  rw [openIn]
  rcases direction_of_output h with hr | hr <;> rw [hr] <;> rfl

/-- How a directive opens a node: from its first byte on, and to append to it if the directive says
    so. -/
def handleOn (r : Redirection) (id : NodeId) : Handle := ⟨id, 0, decide (r.direction = .append)⟩

/-- A file that was opened to be read is there, and nothing is changed. -/
theorem openInput_of_openIn {start : Location} {directory : Path} {fs files : FileSystem}
    {handle : Handle} (hr : r.isOutput = false)
    (h : r.openIn mask start directory fs = .ok (files, handle)) :
    fs.openInput start (directory.join r.path) = .ok handle.node ∧ files = fs ∧
      handle = r.handleOn handle.node := by
  rw [openIn_input hr] at h
  rcases hopen : fs.openInput start (directory.join ⟨r.name⟩) with cause | id
  · rw [hopen] at h
    cases h
  · rw [hopen] at h
    cases h
    refine ⟨hopen, rfl, ?_⟩
    rw [handleOn, direction_of_input hr]
    rfl

/-- A file that was opened to be written is emptied if the directive says so. -/
theorem openOutput_of_openIn {start : Location} {directory : Path} {fs files : FileSystem}
    {handle : Handle} (hr : r.isOutput = true)
    (h : r.openIn mask start directory fs = .ok (files, handle)) :
    fs.openOutput mask start (directory.join r.path) (decide (r.direction = .truncate))
        = .ok (files, handle.node) ∧
      handle = r.handleOn handle.node := by
  rw [openIn_output hr] at h
  rcases hopen :
      fs.openOutput mask start (directory.join ⟨r.name⟩) (decide (r.direction = .truncate))
    with cause | ⟨files', id⟩
  · rw [hopen] at h
    cases h
  · rw [hopen] at h
    cases h
    exact ⟨hopen, rfl⟩

/-- The last directive decides, if it is for standard input. -/
theorem lastInput?_concat (rs : List Redirection) (r : Redirection) :
    lastInput? (rs ++ [r]) = if r.isOutput then lastInput? rs else some r := by
  unfold lastInput?
  by_cases hr : r.isOutput <;> simp [hr]

/-- The same for standard output. -/
theorem lastOutput?_concat (rs : List Redirection) (r : Redirection) :
    lastOutput? (rs ++ [r]) = if r.isOutput then some r else lastOutput? rs := by
  unfold lastOutput?
  by_cases hr : r.isOutput <;> simp [hr]

end Redirection

/-- Whether what is written to an opened file goes to its end: every write does, or the file is
    empty and nothing was written yet. -/
def Handle.AtEnd (handle : Handle) (fs : FileSystem) : Prop :=
  handle.append = true ∨ handle.offset = 0 ∧ fs.bytes? handle.node = some []

namespace FileSystem

section Opening

variable {mask : Nat} {start here : Location} {directory : Path} {names : List Bytes}
  {written : List NodeId} {before fs : FileSystem} {r : Redirection}

/-- What opening a directive does that names a target. -/
structure OpensTarget (mask : Nat) (start : Location) (directory : Path) (here : Location)
    (names : List Bytes) (fs : FileSystem) (r : Redirection) (fs' : FileSystem) (handle : Handle) :
    Prop where
  /-- It opens. -/
  opens : r.openIn mask start directory fs = .ok (fs', handle)
  /-- The bytes under the targets are as the directive says. -/
  contents : ∀ name ∈ names,
    fs'.fileIn? here.node name = r.opened name (fs.fileIn? here.node name)
  /-- The names keep their files. -/
  kept : ∀ name id, fs.named? here.node name = some id → fs'.named? here.node name = some id
  /-- What is opened is the file under its name. -/
  named : fs'.named? here.node r.name = some handle.node
  /-- What is written to a file that is opened for that goes to its end. -/
  at_end : r.isOutput = true → handle.AtEnd fs'
  /-- Opening a file to be read changes nothing. -/
  unchanged : r.isOutput = false → fs' = fs

namespace Redirected

/-- A target that is there can be opened to be read. -/
theorem opens_input (h : Redirected start directory here names written before fs)
    (hr : r.isOutput = false) (hname : r.name ∈ names)
    (hthere : fs.named? here.node r.name ≠ none) :
    ∃ handle, OpensTarget mask start directory here names fs r fs handle := by
  obtain ⟨entries, hat⟩ := h.has.leads
  obtain ⟨id, hid⟩ := Option.ne_none_iff_exists'.1 hthere
  have hlookup : lookup entries r.name = some id := by rw [← named?_eq hat.holds, hid]
  obtain ⟨mode, content, hfile⟩ := h.has.regular r.name hname id hid
  refine ⟨⟨id, 0, false⟩, ?_, ?_, fun _ _ hold => hold, hid, ?_, fun _ => rfl⟩
  · rw [Redirection.openIn_input hr, openInput_plain hat (h.has.plain r.name hname) hlookup hfile]
    rfl
  · intro name _
    rw [Redirection.opened_input hr]
  · intro houtput
    rw [hr] at houtput
    cases houtput

/-- A target that is free is made when it is opened to be written. -/
theorem opens_vacant (h : Redirected start directory here names written before fs)
    (hr : r.isOutput = true) (hname : r.name ∈ names)
    (hfree : fs.named? here.node r.name = none) :
    ∃ fs' handle, OpensTarget mask start directory here names fs r fs' handle ∧
      Redirected start directory here names written before fs' := by
  obtain ⟨entries, hat⟩ := h.has.leads
  have hlookup : lookup entries r.name = none := by rw [← named?_eq hat.holds, hfree]
  obtain ⟨hnew, -⟩ := addEntry_spec hat.holds r.name (.file (outputMode mask) [])
  have hnamed := named?_addEntry hat.holds r.name (.file (outputMode mask) [])
  have hself : (fs.addEntry here.node r.name (.file (outputMode mask) [])).1.named? here.node r.name
      = some fs.nodes.size := by rw [hnamed, hfree, Option.none_or, if_pos rfl]
  have hcontents : ∀ name ∈ names,
      (fs.addEntry here.node r.name (.file (outputMode mask) [])).1.fileIn? here.node name
        = if name = r.name then some [] else fs.fileIn? here.node name :=
    fun name hin => fileIn?_addEntry hat.holds hfree (outputMode mask) [] (h.named?_ne_size hin)
  refine ⟨(fs.addEntry here.node r.name (.file (outputMode mask) [])).1,
    ⟨fs.nodes.size, 0, decide (r.direction = .append)⟩, ⟨?_, ?_, ?_, hself, ?_, ?_⟩,
    h.addEntry hname hfree mask []⟩
  · rw [Redirection.openIn_output hr, openOutput_vacant hat (h.has.plain r.name hname) hlookup,
      Except.map, hnew]
  · intro name hin
    rw [hcontents name hin, Redirection.opened_output hr]
    by_cases heq : name = r.name
    · rw [if_pos heq, if_pos heq, heq, fileIn?, hfree]
      simp
    · rw [if_neg heq, if_neg heq]
  · intro name id hold
    rw [hnamed, hold, Option.some_or]
  · intro _
    have hbytes := hcontents r.name hname
    rw [fileIn?, hself, Option.bind_some, if_pos rfl] at hbytes
    exact .inr ⟨rfl, hbytes⟩
  · intro hinput
    rw [hr] at hinput
    cases hinput

/-- A target that is there keeps its bytes when it is opened to be written, or loses them. -/
theorem opens_existing (h : Redirected start directory here names written before fs)
    (hr : r.isOutput = true) (hname : r.name ∈ names) {id : NodeId}
    (hid : fs.named? here.node r.name = some id) :
    ∃ fs' handle, OpensTarget mask start directory here names fs r fs' handle ∧
      Redirected start directory here names written before fs' := by
  obtain ⟨entries, hat⟩ := h.has.leads
  have hlookup : lookup entries r.name = some id := by rw [← named?_eq hat.holds, hid]
  obtain ⟨mode, content, hfile⟩ := h.has.regular r.name hname id hid
  have hcontent : fs.fileIn? here.node r.name = some content := by
    rw [fileIn?, hid, Option.bind_some, bytes?_of_file hfile]
  refine ⟨fs.setNode id (.file mode (if r.direction = .truncate then [] else content)),
    ⟨id, 0, decide (r.direction = .append)⟩, ⟨?_, ?_, ?_, ?_, ?_, ?_⟩,
    h.setContent hfile (h.writable hname hid) _⟩
  · rw [Redirection.openIn_output hr,
      openOutput_existing hat (h.has.plain r.name hname) hlookup hfile, Except.map]
    simp only [decide_eq_true_eq]
  · intro name hin
    rw [fileIn?_setContent hat.holds hfile, Redirection.opened_output hr]
    by_cases heq : name = r.name
    · rw [heq, if_pos hid, if_pos rfl, hcontent, Option.getD_some]
    · have hother : fs.named? here.node name ≠ some id :=
        fun hsame => heq (h.has.distinct name hin r.name hname id hsame hid)
      rw [if_neg heq, if_neg hother]
  · intro name id' hold
    rw [named?_setContent hat.holds hfile, hold]
  · rw [named?_setContent hat.holds hfile, hid]
  · intro _
    rcases Redirection.direction_of_output hr with htruncate | happend
    · right
      rw [bytes?_setContent hfile, if_pos rfl, if_pos htruncate]
      exact ⟨rfl, rfl⟩
    · left
      exact decide_eq_true happend
  · intro hinput
    rw [hr] at hinput
    cases hinput

/-- **One directive.** A target opens, to be read only if it is there. -/
theorem opensTarget (h : Redirected start directory here names written before fs)
    (hname : r.name ∈ names)
    (hthere : r.isOutput = false → fs.named? here.node r.name ≠ none) :
    ∃ fs' handle, OpensTarget mask start directory here names fs r fs' handle ∧
      Redirected start directory here names written before fs' := by
  by_cases hr : r.isOutput = true
  · rcases hid : fs.named? here.node r.name with _ | id
    · exact h.opens_vacant hr hname hid
    · exact h.opens_existing hr hname hid
  · have hinput : r.isOutput = false := Bool.eq_false_iff.2 hr
    obtain ⟨handle, hopens⟩ := h.opens_input hinput hname (hthere hinput)
    exact ⟨fs, handle, hopens, h⟩

end Redirected

/-- What opening directives does that name targets. -/
structure OpensTargets (mask : Nat) (start : Location) (directory : Path) (here : Location)
    (names : List Bytes) (fs : FileSystem) (rs : List Redirection) (fs' : FileSystem)
    (opened : OpenedFiles) : Prop where
  /-- They open. -/
  opens : Redirection.Opens mask start directory fs {} rs fs' opened
  /-- The bytes under the targets are as the directives say. -/
  contents : ∀ name ∈ names, fs'.fileIn? here.node name
    = rs.foldl (fun content r => r.opened name content) (fs.fileIn? here.node name)
  /-- The names keep their files. -/
  kept : ∀ name id, fs.named? here.node name = some id → fs'.named? here.node name = some id
  /-- There are files under the names of the directives. -/
  there : ∀ r ∈ rs, fs'.named? here.node r.name ≠ none
  /-- The file in place of standard input is that of the last directive for it. -/
  input : Option.Rel (fun handle r => fs'.named? here.node r.name = some handle.node)
    opened.input (Redirection.lastInput? rs)
  /-- So is the file in place of standard output, and what is written to it goes to its end. -/
  output : Option.Rel
    (fun handle r => fs'.named? here.node r.name = some handle.node ∧ handle.AtEnd fs')
    opened.output (Redirection.lastOutput? rs)

namespace OpensTargets

variable {rs : List Redirection} {fs' : FileSystem} {opened : OpenedFiles} {handle : Handle}

/-- A file in place of standard input is that of the last directive for it. -/
theorem exists_lastInput? (h : OpensTargets mask start directory here names fs rs fs' opened)
    (hopened : opened.input = some handle) :
    ∃ r ∈ rs, Redirection.lastInput? rs = some r ∧
      fs'.named? here.node r.name = some handle.node := by
  have hinput := h.input
  rw [hopened] at hinput
  rcases hlast : Redirection.lastInput? rs with _ | r
  · rw [hlast] at hinput
    cases hinput
  · rw [hlast] at hinput
    rcases hinput with hnamed | _
    exact ⟨r, List.mem_of_mem_filter (List.mem_of_getLast? hlast), rfl, hnamed⟩

/-- A file in place of standard output is that of the last directive for it. -/
theorem exists_lastOutput? (h : OpensTargets mask start directory here names fs rs fs' opened)
    (hopened : opened.output = some handle) :
    ∃ r ∈ rs, Redirection.lastOutput? rs = some r ∧
      fs'.named? here.node r.name = some handle.node ∧ handle.AtEnd fs' := by
  have houtput := h.output
  rw [hopened] at houtput
  rcases hlast : Redirection.lastOutput? rs with _ | r
  · rw [hlast] at houtput
    cases houtput
  · rw [hlast] at houtput
    rcases houtput with ⟨hnamed, hend⟩ | _
    exact ⟨r, List.mem_of_mem_filter (List.mem_of_getLast? hlast), rfl, hnamed, hend⟩

/-- Without a directive for standard output, no file is in place of it. -/
theorem output_eq_none_iff (h : OpensTargets mask start directory here names fs rs fs' opened) :
    opened.output = none ↔ Redirection.lastOutput? rs = none := by
  have houtput := h.output
  rcases hlast : Redirection.lastOutput? rs with _ | r <;>
    rcases hopened : opened.output with _ | handle
  · simp
  · rw [hlast, hopened] at houtput
    cases houtput
  · rw [hlast, hopened] at houtput
    cases houtput
  · simp

end OpensTargets

/-- One more directive. -/
theorem OpensTargets.concat {rs : List Redirection} {fs' fs'' : FileSystem} {opened : OpenedFiles}
    {handle : Handle} (h : OpensTargets mask start directory here names fs rs fs' opened)
    (hr : OpensTarget mask start directory here names fs' r fs'' handle) :
    OpensTargets mask start directory here names fs (rs ++ [r]) fs''
      (opened.use r.direction handle) where
  opens := h.opens.concat hr.opens
  contents := by
    intro name hin
    rw [hr.contents name hin, h.contents name hin, List.foldl_append]
    rfl
  kept := fun name id hid => hr.kept name id (h.kept name id hid)
  there := by
    intro r' hr'
    rcases List.mem_append.1 hr' with hr' | hr'
    · obtain ⟨id, hid⟩ := Option.ne_none_iff_exists'.1 (h.there r' hr')
      rw [hr.kept _ _ hid]
      exact Option.some_ne_none id
    · rw [List.mem_singleton.1 hr', hr.named]
      exact Option.some_ne_none _
  input := by
    rw [Redirection.lastInput?_concat]
    by_cases houtput : r.isOutput = true
    · have huse : (opened.use r.direction handle).input = opened.input := by
        rcases Redirection.direction_of_output houtput with hr | hr <;> rw [hr] <;> rfl
      have hkept : ∀ {handle? r?}, Option.Rel (fun (handle : Handle) (r : Redirection) =>
            fs'.named? here.node r.name = some handle.node) handle? r? →
          Option.Rel (fun handle r => fs''.named? here.node r.name = some handle.node)
            handle? r? := by
        rintro _ _ (hnamed | _)
        · exact .some (hr.kept _ _ hnamed)
        · exact .none
      rw [huse, if_pos houtput]
      exact hkept h.input
    · have hinput : r.isOutput = false := Bool.eq_false_iff.2 houtput
      rw [Redirection.direction_of_input hinput, if_neg houtput]
      exact .some hr.named
  output := by
    rw [Redirection.lastOutput?_concat]
    by_cases houtput : r.isOutput = true
    · have huse : (opened.use r.direction handle).output = some handle := by
        rcases Redirection.direction_of_output houtput with hr | hr <;> rw [hr] <;> rfl
      rw [huse, if_pos houtput]
      exact .some ⟨hr.named, hr.at_end houtput⟩
    · have hinput : r.isOutput = false := Bool.eq_false_iff.2 houtput
      rw [Redirection.direction_of_input hinput, if_neg houtput, hr.unchanged hinput]
      exact h.output

/-- Whether every directive for standard input finds its file: it is there at first, or a directive
    before it made it. -/
def FindsInputs (there : Bytes → Prop) (rs : List Redirection) : Prop :=
  ∀ before r after, rs = before ++ r :: after → r.isOutput = false →
    there r.name ∨ ∃ r' ∈ before, r'.isOutput = true ∧ r'.name = r.name

/-- The first directives find their files. -/
theorem FindsInputs.left {there : Bytes → Prop} {rs rest : List Redirection}
    (h : FindsInputs there (rs ++ rest)) : FindsInputs there rs := by
  rintro before r after rfl hr
  exact h before r (after ++ rest) (by simp) hr

/-- Further directives find their files where there are those of the first ones. -/
theorem FindsInputs.right {there there' : Bytes → Prop} {rs rest : List Redirection}
    (h : FindsInputs there (rs ++ rest)) (hthere : ∀ name, there name → there' name)
    (hrs : ∀ r ∈ rs, there' r.name) : FindsInputs there' rest := by
  rintro before r after rfl hr
  rcases h (rs ++ before) r after (by simp) hr with hfound | ⟨r', hr', houtput, hname⟩
  · exact .inl (hthere _ hfound)
  · rcases List.mem_append.1 hr' with hr' | hr'
    · exact .inl (hname ▸ hrs r' hr')
    · exact .inr ⟨r', hr', houtput, hname⟩

/-- **Directives.** A list of directives opens if they name targets, and those for standard input
    find their files. -/
theorem Redirected.opensTargets (h : Redirected start directory here names written before fs)
    (rs : List Redirection) (hnames : ∀ r ∈ rs, r.name ∈ names)
    (hinputs : FindsInputs (fun name => fs.named? here.node name ≠ none) rs) :
    ∃ fs' opened, OpensTargets mask start directory here names fs rs fs' opened ∧
      Redirected start directory here names written before fs' := by
  induction rs using List.reverseRecOn with
  | nil =>
    refine ⟨fs, {}, ⟨.nil, fun _ _ => rfl, fun _ _ hid => hid, by simp, .none, .none⟩, h⟩
  | append_singleton rs r ih =>
    obtain ⟨fs', opened, hopens, hafter⟩ :=
      ih (fun r' hr' => hnames r' (List.mem_append_left _ hr')) hinputs.left
    have hname : r.name ∈ names := hnames r (by simp)
    have hthere : r.isOutput = false → fs'.named? here.node r.name ≠ none := by
      intro hr
      rcases hinputs rs r [] rfl hr with hfound | ⟨r', hr', -, hsame⟩
      · obtain ⟨id, hid⟩ := Option.ne_none_iff_exists'.1 hfound
        rw [hopens.kept _ _ hid]
        exact Option.some_ne_none id
      · exact hsame ▸ hopens.there r' hr'
    obtain ⟨fs'', handle, hr, hafter'⟩ := hafter.opensTarget hname hthere
    exact ⟨fs'', opened.use r.direction handle, hopens.concat hr, hafter'⟩

end Opening

end FileSystem

end CommandShell
