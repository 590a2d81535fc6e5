import CommandShell.Proofs.LookedUpNames
import Mathlib.Data.List.Nodup
import Mathlib.Data.Nat.Bitwise

namespace CommandShell

/-!
# OpenedTargets — every file once directives are opened

Directives name files by paths of any kind, several of them perhaps the same file. This file says
what is in the table of files once they are opened one after the other:

* `FileSystem.openOutput_leads` — a path that was opened for writing leads to what was opened;
* `FileSystem.MadeAndEmptied` — a file system once some files were made in it and some were emptied;
  `FileSystem.nodeAfter` — what is under a number of its table then;
* `FileSystem.outputMode_eq` — the permission bits of a file that is made;
* `Redirection.OpenedTargets` — the files and the streams once directives are opened;
  `Redirection.OpenedTargets.concat` — one more directive;
  `Redirection.OpenedTargets.empty_or_device` — what that means for a file that was to be emptied;
* `Redirection.openAll_targets` — every list of directives is opened to that, or stops at the first
  that cannot be opened.
-/

namespace FileSystem

/-! ### The path that was opened -/

variable {fs fs' files : FileSystem} {mask : Nat} {start : Location} {path : Path} {truncate : Bool}
  {id : NodeId}

/-- Names that are the same but for free ones are kept. -/
theorem NamesAlike.keepsNames {besides : NodeId → Bytes → Prop} (h : NamesAlike fs fs' besides)
    (hfree : ∀ id name, besides id name → fs.named? id name = none) : KeepsNames fs fs' where
  entries := by
    intro id entries hentries
    have hsame := h.directory id
    rw [isDirectory, isDirectory, hentries] at hsame
    obtain ⟨entries', hentries'⟩ := Option.isSome_iff_exists.1 hsame
    refine ⟨entries', hentries', fun {name child} hlookup => ?_⟩
    have hnamed : fs.named? id name = some child := by
      rw [named?, hentries, Option.bind_some, hlookup]
    have hkept : fs'.named? id name = fs.named? id name := h.named id name fun hbesides => by
      rw [hfree id name hbesides] at hnamed
      cases hnamed
    rwa [hnamed, named?, hentries', Option.bind_some] at hkept
  link_iff := fun {id target} => h.link_iff id target

/-- Opening a path for writing keeps the names of a file system. -/
theorem OpensTo.keepsNames (h : fs.OpensTo mask start path truncate files id) :
    KeepsNames fs files := by
  refine h.namesAlike.keepsNames fun id name hmakes => ?_
  obtain ⟨place, hplace, rfl⟩ := hmakes
  obtain ⟨-, hreaches⟩ := locateNew_eq_ok.1 hplace
  obtain ⟨entries, hentries, hfree⟩ := hreaches.exists_entries
  rw [named?_eq hentries, hfree]

/-- What was opened for writing is where the path leads then. -/
theorem openOutput_leads (h : fs.openOutput mask start path truncate = .ok (files, id)) :
    files.locateNew start path = .ok (.existing id) := by
  have hkeeps := (openOutput_opensTo h).keepsNames
  obtain ⟨-, hopen⟩ := guarded_eq_ok.1 h
  unfold openForWriting at hopen
  rcases hplace : fs.locateNew start path with reason | ⟨id'⟩ | ⟨place, name⟩
  · rw [hplace] at hopen
    cases hopen
  · -- What is there is opened itself.
    have hid : id' = id := by
      simp only [hplace, bind, Except.bind] at hopen
      split at hopen <;> cases hopen <;> rfl
    obtain ⟨hcheck, hreaches⟩ := locateNew_eq_ok.1 hplace
    exact locateNew_eq_ok.2 ⟨hcheck, (hid ▸ hreaches).of_keepsNames hkeeps⟩
  · -- What is made is under a name that was free.
    simp only [hplace, bind, Except.bind] at hopen
    have hadded := Except.ok.inj hopen
    obtain ⟨hcheck, hreaches⟩ := locateNew_eq_ok.1 hplace
    obtain ⟨entries, hentries, hfree⟩ := hreaches.exists_entries
    obtain ⟨hnew, hnode?⟩ := addEntry_spec hentries name (.file (outputMode mask) [])
    have hid : id = fs.nodes.size := by rw [← hnew, hadded]
    rw [hadded] at hnode?
    have hsize : fs.nodes.size ≠ place.node := Nat.ne_of_gt (lt_size_of_node? hentries)
    have hholds : files.node? place.node
        = some (.directory (entries ++ [(name, fs.nodes.size)])) := by rw [hnode?, if_pos rfl]
    have hlookup : lookup (entries ++ [(name, fs.nodes.size)]) name = some fs.nodes.size := by
      rw [lookup_append, hfree, Option.none_or, lookup_singleton, if_pos rfl]
    have hfile : ∀ target, files.node? fs.nodes.size ≠ some (.link target) := by
      intro target
      rw [hnode?, if_neg hsize, if_pos rfl]
      simp
    rw [hid]
    exact locateNew_eq_ok.2 ⟨hcheck, hreaches.of_made hkeeps hholds hlookup hfile⟩

/-! ### The table of files -/

/-- The entries that a directory gets when files are made: `made` are the directories and the names
    of all of them, and they are numbered from `next` on. -/
def newEntries (next : NodeId) (made : List (NodeId × Bytes)) (directory : NodeId) :
    List (Bytes × NodeId) :=
  (made.zipIdx next).filterMap fun (place, id) =>
    if place.1 = directory then some (place.2, id) else none

/-- A file that is made can be read by everyone and written by its owner, as far as the mask keeps
    those bits from no file. -/
theorem outputMode_eq (mask : Nat) : outputMode mask = Nat.ldiff 0o644 mask := by
  rw [outputMode, Nat.and_xor_distrib_left, show 0o644 &&& 0o777 = 0o644 from rfl]
  refine Nat.eq_of_testBit_eq fun i => ?_
  rw [Nat.testBit_xor, Nat.testBit_and, Nat.testBit_ldiff]
  cases Nat.testBit 0o644 i <;> simp

example : outputMode 0o027 = 0o640 := by decide

/-- What is under a number of the table once files were made, empty and with the bits 0644 less those
    of the mask, and the regular files among `emptied` were emptied. -/
def nodeAfter (fs : FileSystem) (mask : Nat) (made : List (NodeId × Bytes))
    (emptied : List NodeId) (id : NodeId) : Option Node :=
  match fs.node? id with
  | some (.file mode content) => some (.file mode (if id ∈ emptied then [] else content))
  | some (.directory entries) =>
    some (.directory (entries ++ newEntries fs.nodes.size made id))
  | some node => some node
  | none =>
    if id < fs.nodes.size + made.length then some (.file (Nat.ldiff 0o644 mask) []) else none

variable {before after : FileSystem} {mask : Nat} {made : List (NodeId × Bytes)}
  {emptied : List NodeId}

theorem newEntries_concat (next : NodeId) (made : List (NodeId × Bytes)) (directory : NodeId)
    (name : Bytes) (id : NodeId) :
    newEntries next (made ++ [(directory, name)]) id
      = newEntries next made id ++ if directory = id then [(name, next + made.length)] else [] := by
  unfold newEntries
  rw [List.zipIdx_append, List.filterMap_append]
  by_cases hid : directory = id <;> simp [hid]

/-- A name that is free once files were made is none of theirs. -/
theorem not_mem_of_lookup_newEntries {next directory : NodeId} {name : Bytes}
    (h : lookup (newEntries next made directory) name = none) : (directory, name) ∉ made := by
  intro hmem
  obtain ⟨i, hi⟩ := List.mem_iff_getElem?.1 hmem
  have hentry : (name, next + i) ∈ newEntries next made directory :=
    List.mem_filterMap.2 ⟨_, List.mk_add_mem_zipIdx_iff_getElem?.2 hi, if_pos rfl⟩
  rw [lookup, Option.map_eq_none_iff, List.find?_eq_none] at h
  exact h _ hentry (decide_eq_true rfl)

theorem node?_eq_none_iff {fs : FileSystem} {id : NodeId} :
    fs.node? id = none ↔ fs.nodes.size ≤ id :=
  Array.getElem?_eq_none_iff

theorem nodeAfter_eq_none_iff :
    before.nodeAfter mask made emptied id = none ↔ before.nodes.size + made.length ≤ id := by
  unfold nodeAfter
  rcases hnode : before.node? id with _ | node
  · simp
  · have hlt : id < before.nodes.size + made.length :=
      Nat.lt_add_right _ (lt_size_of_node? hnode)
    cases node <;> simp [Nat.not_le_of_lt hlt]

/-- What is a directory was one, and had all but the new entries. -/
theorem nodeAfter_eq_directory {entries : List (Bytes × NodeId)}
    (h : before.nodeAfter mask made emptied id = some (.directory entries)) :
    ∃ old, before.node? id = some (.directory old) ∧
      entries = old ++ newEntries before.nodes.size made id := by
  unfold nodeAfter at h
  rcases hnode : before.node? id with _ | node
  · rw [hnode] at h
    simp only at h
    split_ifs at h
    cases h
  · rw [hnode] at h
    cases node <;> cases h
    exact ⟨_, rfl, rfl⟩

/-- The table has room for the files that were made. -/
theorem size_eq_of_nodeAfter (h : ∀ id, after.node? id = before.nodeAfter mask made emptied id) :
    after.nodes.size = before.nodes.size + made.length := by
  refine Nat.le_antisymm ?_ ?_
  · rw [← node?_eq_none_iff, h]
    exact nodeAfter_eq_none_iff.2 (Nat.le_refl _)
  · have hnone := h after.nodes.size
    rw [node?_size] at hnone
    exact nodeAfter_eq_none_iff.1 hnone.symm

/-- One more file is made. -/
theorem node?_addEntry_of_nodeAfter
    (h : ∀ id, after.node? id = before.nodeAfter mask made emptied id) {here : NodeId}
    {entries : List (Bytes × NodeId)}
    (hentries : after.node? here = some (.directory entries)) (name : Bytes) (id : NodeId) :
    (after.addEntry here name (.file (outputMode mask) [])).1.node? id
      = before.nodeAfter mask (made ++ [(here, name)]) emptied id := by
  have hsize := size_eq_of_nodeAfter h
  have hlength : before.nodes.size + (made ++ [(here, name)]).length = after.nodes.size + 1 := by
    rw [List.length_append, List.length_singleton, ← Nat.add_assoc, hsize]
  obtain ⟨-, hnode?⟩ := addEntry_spec hentries name (.file (outputMode mask) [])
  rw [hnode?]
  by_cases hhere : id = here
  · subst hhere
    rw [h] at hentries
    obtain ⟨old, hold, rfl⟩ := nodeAfter_eq_directory hentries
    rw [if_pos rfl, nodeAfter, hold, hsize]
    simp only [newEntries_concat, if_true, List.append_assoc]
  · rw [if_neg hhere]
    by_cases hnew : id = after.nodes.size
    · have hnone : before.node? id = none :=
        node?_eq_none_iff.2 (hnew ▸ hsize ▸ Nat.le_add_right _ _)
      have hlt : id < after.nodes.size + 1 := hnew ▸ Nat.lt_succ_self _
      rw [if_pos hnew, nodeAfter, hnone, outputMode_eq]
      simp only [hlength, if_pos hlt]
    · -- Nothing else is changed by the new entry.
      rw [if_neg hnew, h]
      unfold nodeAfter
      rcases hnode : before.node? id with _ | node
      · have hlt : id < after.nodes.size + 1 ↔ id < after.nodes.size :=
          Nat.lt_succ_iff.trans ⟨fun hle => Nat.lt_of_le_of_ne hle hnew, Nat.le_of_lt⟩
        simp only [hlength, hlt, ← hsize]
      · cases node <;> simp [newEntries_concat, Ne.symm hhere]

/-- One more node is emptied, if it is a file. -/
theorem nodeAfter_concat (made : List (NodeId × Bytes)) (emptied : List NodeId) (id id' : NodeId) :
    before.nodeAfter mask made (emptied ++ [id]) id' =
      if id' = id then
        match before.nodeAfter mask made emptied id with
        | some (.file mode _) => some (.file mode [])
        | other => other
      else before.nodeAfter mask made emptied id' := by
  by_cases hid : id' = id
  · subst hid
    rw [if_pos rfl]
    unfold nodeAfter
    rcases before.node? id' with _ | node
    · simp only
      split_ifs <;> rfl
    · cases node <;> simp
  · rw [if_neg hid]
    unfold nodeAfter
    simp only [List.mem_append, List.mem_singleton, hid, or_false]

/-- What is in a file system once files were made in it and some were emptied: `made` are the
    directories and the names of the new ones, in the order of their numbers. -/
structure MadeAndEmptied (before : FileSystem) (mask : Nat) (made : List (NodeId × Bytes))
    (emptied : List NodeId) (after : FileSystem) : Prop where
  /-- The table has the new files, and the regular files to be emptied are. -/
  node?_eq : ∀ id, after.node? id = before.nodeAfter mask made emptied id
  /-- Files were made in directories, under names that were free. -/
  free : ∀ place ∈ made, ∃ entries, before.node? place.1 = some (.directory entries) ∧
    lookup entries place.2 = none
  /-- No two of them were made under one name. -/
  nodup : made.Nodup

namespace MadeAndEmptied

theorem refl (fs : FileSystem) (mask : Nat) : fs.MadeAndEmptied mask [] [] fs where
  node?_eq := by
    intro id
    unfold nodeAfter
    rcases hnode : fs.node? id with _ | node
    · simp [Nat.not_lt_of_le (node?_eq_none_iff.1 hnode)]
    · cases node <;> simp [newEntries]
  free := by simp
  nodup := .nil

/-- One more file is made. -/
theorem make (h : before.MadeAndEmptied mask made emptied after) {here : NodeId}
    {entries : List (Bytes × NodeId)} {name : Bytes}
    (hentries : after.node? here = some (.directory entries)) (hfree : lookup entries name = none) :
    before.MadeAndEmptied mask (made ++ [(here, name)]) emptied
      (after.addEntry here name (.file (outputMode mask) [])).1 := by
  have hdirectory := hentries
  rw [h.node?_eq] at hdirectory
  obtain ⟨old, hold, rfl⟩ := nodeAfter_eq_directory hdirectory
  rw [lookup_append, Option.or_eq_none_iff] at hfree
  refine ⟨node?_addEntry_of_nodeAfter h.node?_eq hentries name, ?_, ?_⟩
  · exact List.forall_mem_append.2 ⟨h.free, List.forall_mem_singleton.2 ⟨old, hold, hfree.1⟩⟩
  · rw [← List.concat_eq_append]
    exact List.Nodup.concat (not_mem_of_lookup_newEntries hfree.2) h.nodup

/-- One more file is emptied. -/
theorem empty (h : before.MadeAndEmptied mask made emptied after) {mode : Nat} {content : Bytes}
    (hfile : after.node? id = some (.file mode content)) :
    before.MadeAndEmptied mask made (emptied ++ [id]) (after.setNode id (.file mode [])) := by
  refine ⟨fun id' => ?_, h.free, h.nodup⟩
  rw [nodeAfter_concat, ← h.node?_eq, ← h.node?_eq]
  split_ifs with hid
  · rw [hid, node?_setNode_self hfile, hfile]
  · rw [node?_setNode_of_ne hid]

/-- What is empty, or no regular file, can be emptied without a change. -/
theorem empty_none (h : before.MadeAndEmptied mask made emptied after)
    (hnone : ∀ mode content, after.node? id = some (.file mode content) → content = []) :
    before.MadeAndEmptied mask made (emptied ++ [id]) after := by
  refine ⟨fun id' => ?_, h.free, h.nodup⟩
  rw [nodeAfter_concat, ← h.node?_eq, ← h.node?_eq]
  split_ifs with hid
  · rw [hid]
    split
    · rename_i mode content hfile
      rw [hfile, hnone mode content hfile]
    · rfl
  · rfl

/-- A file to be emptied has no bytes. -/
theorem content_eq_nil (h : before.MadeAndEmptied mask made emptied after) (hid : id ∈ emptied)
    {mode : Nat} {content : Bytes} (hfile : after.node? id = some (.file mode content)) :
    content = [] := by
  rw [h.node?_eq, nodeAfter] at hfile
  rcases hnode : before.node? id with _ | node
  · rw [hnode] at hfile
    simp only at hfile
    split_ifs at hfile
    cases hfile
    rfl
  · rw [hnode] at hfile
    cases node <;> simp only [if_pos hid] at hfile <;> cases hfile
    rfl

end MadeAndEmptied

/-- Whether a node can be written to: it is a regular file or a device. -/
def IsWritable (fs : FileSystem) (id : NodeId) : Prop :=
  (∃ mode content, fs.node? id = some (.file mode content)) ∨
    ∃ kind, fs.node? id = some (.device kind)

/-- What could be written to can be written to still. -/
theorem OpensTo.isWritable (h : fs.OpensTo mask start path truncate files id) {id' : NodeId}
    (hid' : fs.IsWritable id') : files.IsWritable id' := by
  cases h with
  | @made place entries name _ hentries _ =>
    obtain ⟨-, hnode?⟩ := addEntry_spec hentries name (.file (outputMode mask) [])
    have hnode : (fs.addEntry place.node name (.file (outputMode mask) [])).1.node? id'
        = fs.node? id' := by
      have hthere : ∃ node, fs.node? id' = some node ∧ ∀ entries, node ≠ .directory entries := by
        rcases hid' with ⟨mode, content, hnode⟩ | ⟨kind, hnode⟩ <;> exact ⟨_, hnode, by simp⟩
      obtain ⟨node, hnode, hfile⟩ := hthere
      have hplace : id' ≠ place.node := by
        rintro rfl
        rw [hentries] at hnode
        cases hnode
        exact hfile _ rfl
      rw [hnode?, if_neg hplace, if_neg (Nat.ne_of_lt (lt_size_of_node? hnode))]
    rwa [IsWritable, hnode]
  | @there id mode content hfile =>
    by_cases hid : id' = id
    · exact .inl ⟨mode, _, by rw [hid, node?_setNode_self hfile]⟩
    · rwa [IsWritable, node?_setNode_of_ne hid]
  | device => exact hid'

/-- What was opened for writing can be written to. -/
theorem OpensTo.isWritable_opened (h : fs.OpensTo mask start path truncate files id) :
    files.IsWritable id := by
  rcases h.device_or_file with hdevice | ⟨mode, hfile⟩
  · exact .inr hdevice
  · exact .inl ⟨mode, _, hfile⟩

end FileSystem

/-! ### Directives -/

namespace Redirection

open FileSystem

variable {mask : Nat} {start : Location} {directory : Path} {before fs files : FileSystem}
  {r : Redirection} {id : NodeId} {handle : Handle} {opened : OpenedFiles}

/-- The path of a directive leads to a node: to one to be read, or to one to be written. -/
def LeadsTo (r : Redirection) (start : Location) (directory : Path) (fs : FileSystem)
    (id : NodeId) : Prop :=
  if r.isOutput then fs.locateNew start (directory.join r.path) = .ok (.existing id)
  else (fs.locate start (directory.join r.path)).map Location.node = .ok id

/-- The nodes that directives empty, given with what each of them opened. -/
def emptied (targets : List (Redirection × NodeId)) : List NodeId :=
  (targets.filter (·.1.direction = .truncate)).map (·.2)

/-- The last directive that asks for a file to be written, or to be read, with what it opened. -/
def lastOpened? (isOutput : Bool) (targets : List (Redirection × NodeId)) :
    Option (Redirection × NodeId) :=
  (targets.filter (·.1.isOutput = isOutput)).getLast?

theorem LeadsTo.of_keepsNames (h : r.LeadsTo start directory fs id) (hkeeps : KeepsNames fs files) :
    r.LeadsTo start directory files id := by
  unfold LeadsTo at h ⊢
  split_ifs at h ⊢ with houtput
  · obtain ⟨hcheck, hreaches⟩ := locateNew_eq_ok.1 h
    exact locateNew_eq_ok.2 ⟨hcheck, hreaches.of_keepsNames hkeeps⟩
  · unfold locate at h ⊢
    rcases hcheck : checkPath (directory.join r.path) with reason | ⟨⟩
    · rw [hcheck] at h
      cases h
    · simp only [hcheck, bind, Except.bind] at h ⊢
      rcases hwalk : fs.walk linkLimit (startOf start (directory.join r.path))
        (directory.join r.path).segments with reason | found
      · rw [hwalk] at h
        cases h
      · rwa [hkeeps.walk_ok hwalk, ← hwalk]

/-- What a directive opened is what its path leads to then. -/
theorem openIn_leadsTo (h : r.openIn mask start directory fs = .ok (files, handle)) :
    r.LeadsTo start directory files handle.node := by
  unfold LeadsTo
  by_cases houtput : r.isOutput = true
  · rw [if_pos houtput]
    exact openOutput_leads (openOutput_of_openIn houtput h).1
  · obtain ⟨hopen, rfl, -⟩ := openInput_of_openIn (Bool.eq_false_iff.2 houtput) h
    rw [if_neg houtput]
    exact (guarded_eq_ok.1 hopen).2

theorem emptied_concat (targets : List (Redirection × NodeId)) (r : Redirection) (id : NodeId) :
    emptied (targets ++ [(r, id)])
      = emptied targets ++ if r.direction = .truncate then [id] else [] := by
  unfold emptied
  by_cases hr : r.direction = .truncate <;> simp [hr]

theorem lastOpened?_concat (isOutput : Bool) (targets : List (Redirection × NodeId))
    (r : Redirection) (id : NodeId) : lastOpened? isOutput (targets ++ [(r, id)])
      = if r.isOutput = isOutput then some (r, id) else lastOpened? isOutput targets := by
  unfold lastOpened?
  by_cases hr : r.isOutput = isOutput <;> simp [hr]

/-- Opening a node takes the place of one stream. -/
theorem use_handleOn (r : Redirection) (id : NodeId) (opened : OpenedFiles) :
    opened.use r.direction (r.handleOn id) =
      if r.isOutput then { opened with output := some (r.handleOn id) }
      else { opened with input := some (r.handleOn id) } := by
  rcases r with ⟨_ | _ | _, target⟩ <;> rfl

/-- What opening directives leaves, the files that were made being `made`, given as the directories
    and the names of them: `targets` are the directives with the nodes that they opened. -/
structure OpenedTargets (mask : Nat) (start : Location) (directory : Path) (before : FileSystem)
    (targets : List (Redirection × NodeId)) (made : List (NodeId × Bytes)) (after : FileSystem)
    (opened : OpenedFiles) : Prop where
  /-- What a directive opened is what its path leads to. -/
  leads : ∀ o ∈ targets, o.1.LeadsTo start directory after o.2
  /-- What was opened to be written is a regular file or a device. -/
  writable : ∀ o ∈ targets, o.1.isOutput = true → after.IsWritable o.2
  /-- Files were made and emptied, and nothing else is changed. -/
  table : before.MadeAndEmptied mask made (emptied targets) after
  /-- Files were made for directives that ask for a file to be written. -/
  made_opened : ∀ i < made.length, ∃ r, (r, before.nodes.size + i) ∈ targets ∧ r.isOutput = true
  /-- The last directive that asks for a file to be read decides on standard input. -/
  input_eq : opened.input = (lastOpened? false targets).map fun o => o.1.handleOn o.2
  /-- The last directive that asks for a file to be written decides on standard output. -/
  output_eq : opened.output = (lastOpened? true targets).map fun o => o.1.handleOn o.2

namespace OpenedTargets

variable {targets : List (Redirection × NodeId)} {made : List (NodeId × Bytes)}

/-- Before any directive is opened nothing is changed. -/
theorem nil (mask : Nat) (start : Location) (directory : Path) (fs : FileSystem) :
    OpenedTargets mask start directory fs [] [] fs {} where
  leads := by simp
  writable := by simp
  table := .refl fs mask
  made_opened := by simp
  input_eq := rfl
  output_eq := rfl

/-- What the streams are after one more directive. -/
theorem concat_streams (h : OpenedTargets mask start directory before targets made fs opened)
    (r : Redirection) (id : NodeId) :
    (opened.use r.direction (r.handleOn id)).input
        = (lastOpened? false (targets ++ [(r, id)])).map (fun o => o.1.handleOn o.2) ∧
      (opened.use r.direction (r.handleOn id)).output
        = (lastOpened? true (targets ++ [(r, id)])).map (fun o => o.1.handleOn o.2) := by
  rw [use_handleOn, lastOpened?_concat, lastOpened?_concat]
  rcases hr : r.isOutput
  · exact ⟨rfl, h.output_eq⟩
  · exact ⟨h.input_eq, rfl⟩

/-- One more file is opened to be read. -/
theorem concat_input (h : OpenedTargets mask start directory before targets made fs opened)
    (hinput : r.isOutput = false) (hr : r.openIn mask start directory fs = .ok (files, handle)) :
    OpenedTargets mask start directory before (targets ++ [(r, handle.node)]) made files
      (opened.use r.direction handle) := by
  have hleads := openIn_leadsTo hr
  obtain ⟨-, rfl, hhandle⟩ := openInput_of_openIn hinput hr
  obtain ⟨hin, hout⟩ := h.concat_streams r handle.node
  rw [← hhandle] at hin hout
  refine ⟨?_, ?_, ?_, ?_, hin, hout⟩
  · exact List.forall_mem_append.2 ⟨h.leads, List.forall_mem_singleton.2 hleads⟩
  · refine List.forall_mem_append.2 ⟨h.writable, List.forall_mem_singleton.2 fun houtput => ?_⟩
    rw [hinput] at houtput
    cases houtput
  · rw [emptied_concat, direction_of_input hinput, if_neg (by decide), List.append_nil]
    exact h.table
  · intro i hi
    obtain ⟨r', hr', houtput⟩ := h.made_opened i hi
    exact ⟨r', List.mem_append_left _ hr', houtput⟩

/-- The table of files after one more was opened to be written: a new one, or with one that was
    there. -/
theorem concat_table (h : OpenedTargets mask start directory before targets made fs opened)
    {path : Path}
    (hopens : fs.OpensTo mask start path (decide (r.direction = .truncate)) files id) :
    ∃ made', before.MadeAndEmptied mask made' (emptied (targets ++ [(r, id)])) files ∧
      (made' = made ∨ ∃ place, made' = made ++ [place] ∧ id = before.nodes.size + made.length) := by
  rw [emptied_concat]
  cases hopens with
  | @made place entries name _ hentries hfree =>
    have hnew := h.table.make hentries hfree
    have hsize := size_eq_of_nodeAfter h.table.node?_eq
    refine ⟨made ++ [(place.node, name)], ?_, .inr ⟨(place.node, name), rfl, hsize⟩⟩
    split_ifs
    · refine hnew.empty_none fun mode content hnode => ?_
      obtain ⟨-, hnode?⟩ := addEntry_spec hentries name (.file (outputMode mask) [])
      rw [hnode?, if_neg (Nat.ne_of_gt (lt_size_of_node? hentries)), if_pos rfl] at hnode
      cases hnode
      rfl
    · rwa [List.append_nil]
  | @there id mode content hfile =>
    refine ⟨made, ?_, .inl rfl⟩
    simp only [decide_eq_true_eq]
    split_ifs
    · exact h.table.empty hfile
    · rw [List.append_nil, setNode_self hfile]
      exact h.table
  | device hdevice =>
    refine ⟨made, ?_, .inl rfl⟩
    split_ifs
    · refine h.table.empty_none fun mode content hfile => ?_
      rw [hdevice] at hfile
      cases hfile
    · rw [List.append_nil]
      exact h.table

/-- One more file is opened to be written. -/
theorem concat_output (h : OpenedTargets mask start directory before targets made fs opened)
    (houtput : r.isOutput = true) (hr : r.openIn mask start directory fs = .ok (files, handle)) :
    ∃ made', OpenedTargets mask start directory before (targets ++ [(r, handle.node)]) made' files
      (opened.use r.direction handle) := by
  have hleads := openIn_leadsTo hr
  obtain ⟨hopen, hhandle⟩ := openOutput_of_openIn houtput hr
  have hopens := openOutput_opensTo hopen
  obtain ⟨made', htable, hmade⟩ := h.concat_table hopens
  obtain ⟨hin, hout⟩ := h.concat_streams r handle.node
  rw [← hhandle] at hin hout
  refine ⟨made', ?_, ?_, htable, ?_, hin, hout⟩
  · -- What was opened before is where its path leads still.
    have hkept := fun o ho => (h.leads o ho).of_keepsNames hopens.keepsNames
    exact List.forall_mem_append.2 ⟨hkept, List.forall_mem_singleton.2 hleads⟩
  · have hkept := fun o ho hwritten => hopens.isWritable (h.writable o ho hwritten)
    exact List.forall_mem_append.2
      ⟨hkept, List.forall_mem_singleton.2 fun _ => hopens.isWritable_opened⟩
  · intro i hi
    by_cases hold : i < made.length
    · obtain ⟨r', hr', houtput'⟩ := h.made_opened i hold
      exact ⟨r', List.mem_append_left _ hr', houtput'⟩
    · rcases hmade with rfl | ⟨place, rfl, hid⟩
      · exact absurd hi hold
      · -- It is the file that the last directive made.
        rw [List.length_append, List.length_singleton] at hi
        have hi' : i = made.length := by omega
        refine ⟨r, ?_, houtput⟩
        rw [hi', ← hid]
        exact List.mem_append_right _ (List.mem_singleton_self _)

/-- **One directive** more is opened. -/
theorem concat (h : OpenedTargets mask start directory before targets made fs opened)
    (hr : r.openIn mask start directory fs = .ok (files, handle)) :
    ∃ made', OpenedTargets mask start directory before (targets ++ [(r, handle.node)]) made' files
      (opened.use r.direction handle) := by
  rcases houtput : r.isOutput
  · exact ⟨made, h.concat_input houtput hr⟩
  · exact h.concat_output houtput hr

/-- What was to be emptied is empty now, unless it is a device. -/
theorem empty_or_device (h : OpenedTargets mask start directory before targets made fs opened)
    (hmem : (r, id) ∈ targets) (hr : r.direction = .truncate) :
    (∃ mode, fs.node? id = some (.file mode [])) ∨ ∃ kind, fs.node? id = some (.device kind) := by
  have houtput : r.isOutput = true := by
    rw [isOutput, hr]
    rfl
  have hid : id ∈ emptied targets :=
    List.mem_map.2 ⟨(r, id), List.mem_filter.2 ⟨hmem, decide_eq_true hr⟩, rfl⟩
  rcases h.writable _ hmem houtput with ⟨mode, content, hfile⟩ | hdevice
  · refine .inl ⟨mode, ?_⟩
    rw [hfile, h.table.content_eq_nil hid hfile]
  · exact .inr hdevice

/-- Further directives are opened. -/
theorem append {rs : List Redirection} {opened' : OpenedFiles}
    (h : OpenedTargets mask start directory before targets made fs opened)
    (hopens : Opens mask start directory fs opened rs files opened') :
    ∃ targets' made',
      OpenedTargets mask start directory before (targets ++ targets') made' files opened' ∧
        targets'.map (·.1) = rs := by
  induction hopens generalizing targets made with
  | nil => exact ⟨[], made, by rwa [List.append_nil], rfl⟩
  | @cons fs opened r rest fs₁ handle files opened' hr _ ih =>
    obtain ⟨made₁, hnext⟩ := h.concat hr
    obtain ⟨targets', made', hrest, hdirectives⟩ := ih hnext
    refine ⟨(r, handle.node) :: targets', made', ?_, by rw [List.map_cons, hdirectives]⟩
    rwa [List.append_assoc, List.singleton_append] at hrest

end OpenedTargets

/-- **Opened.** Directives that are opened one after the other leave their targets opened. -/
theorem Opens.targets {rs : List Redirection}
    (h : Opens mask start directory fs {} rs files opened) :
    ∃ targets made, OpenedTargets mask start directory fs targets made files opened ∧
      targets.map (·.1) = rs :=
  (OpenedTargets.nil mask start directory fs).append h

/-- **Directives.** Either all are opened, or the first that cannot be ends it: it is named with the
    file as written, the directives before it are opened, and nothing else is changed. -/
theorem openAll_targets (directory : Path) (h : Host) (rs : List Redirection) :
    let start := h.directory
    let before := h.world.files
    (∃ targets made files opened, targets.map (·.1) = rs ∧
      Opens h.mask start directory before {} rs files opened ∧
      OpenedTargets h.mask start directory before targets made files opened ∧
      openAll directory h rs = (.ok opened, h.withFiles files)) ∨
    ∃ first r rest targets made files opened cause, rs = first ++ r :: rest ∧
      targets.map (·.1) = first ∧
      Opens h.mask start directory before {} first files opened ∧
      OpenedTargets h.mask start directory before targets made files opened ∧
      r.openIn h.mask start directory files = .error cause ∧
      openAll directory h rs = (.error (r.refusal cause), h.withFiles files) := by
  intro start before
  rcases openAll_cases directory h rs with
    ⟨files, opened, hopens, hresult⟩ |
      ⟨first, r, rest, files, opened, cause, hrs, hopens, hrefused, hresult⟩
  · obtain ⟨targets, made, htargets, hdirectives⟩ := hopens.targets
    exact .inl ⟨targets, made, files, opened, hdirectives, hopens, htargets, hresult⟩
  · obtain ⟨targets, made, htargets, hdirectives⟩ := hopens.targets
    exact .inr ⟨first, r, rest, targets, made, files, opened, cause, hrs, hdirectives, hopens,
      htargets, hrefused, hresult⟩

end Redirection

end CommandShell
