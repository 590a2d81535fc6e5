import CommandShell.Proofs.MovedOutput
import CommandShell.Proofs.OpenedTargets

namespace CommandShell

/-!
# ListedNames — the names in a directory once directives are opened

Opening directives makes files, and a file is no directory and no link, so a path leads to the
directory that it led to before, and the files that come up in it are those that the directives name:

* `FileSystem.MadeAndEmptied.walk_ok`, `FileSystem.MadeAndEmptied.walk_of_directory` — walks lead
  where they led, and to a directory only if they did before;
* `FileSystem.MadeAndEmptied.makes_of_after`, `FileSystem.MadeAndEmptied.makes_or_taken` — so do
  paths under which a file would be made;
* `FileSystem.MadeAndEmptied.readDirectory_ok`, `FileSystem.MadeAndEmptied.readDirectory_error` — a
  directory can be read exactly if it could be before, and has the names that it had and new ones;
* `Redirection.Opens.mem_madeIn_iff` — the new ones are those that the directives make.
-/

namespace FileSystem

variable {before after : FileSystem} {mask : Nat} {made : List (NodeId × Bytes)}
  {emptied : List NodeId}
  {start at' found : Location} {path : Path} {links : Nat} {parts : List Bytes} {id child : NodeId}
  {name : Bytes}

/-! ### Names of new files -/

/-- The names of the new files in a directory. -/
def madeIn (made : List (NodeId × Bytes)) (directory : NodeId) : List Bytes :=
  (made.filter (·.1 = directory)).map (·.2)

theorem map_fst_newEntries (next : NodeId) (made : List (NodeId × Bytes)) (directory : NodeId) :
    (newEntries next made directory).map (·.1) = madeIn made directory := by
  unfold newEntries madeIn
  induction made generalizing next with
  | nil => rfl
  | cons place rest ih =>
    rw [List.zipIdx_cons]
    by_cases hplace : place.1 = directory <;> simp [hplace, ih]

theorem mem_madeIn : name ∈ madeIn made id ↔ (id, name) ∈ made := by
  simp [madeIn]

/-- New files are numbered from the end of the table on. -/
theorem le_of_mem_newEntries {next : NodeId} (h : (name, child) ∈ newEntries next made id) :
    next ≤ child := by
  obtain ⟨⟨place, number⟩, hmem, hentry⟩ := List.mem_filterMap.1 h
  dsimp only at hentry
  split_ifs at hentry
  cases hentry
  exact List.le_snd_of_mem_zipIdx hmem

/-- A directory can be read if a path without a NUL byte leads to it. -/
theorem readDirectory_eq_ok {fs : FileSystem} {names : List Bytes} :
    fs.readDirectory start path = .ok names ↔
      path.bytes.hasNul = false ∧ ∃ found entries, fs.locate start path = .ok found ∧
        fs.entries? found.node = some entries ∧ names = entries.map (·.1) := by
  unfold readDirectory
  rw [guarded_eq_ok]
  refine and_congr_right fun _ => ?_
  rcases hlocate : fs.locate start path with reason | found
  · simp [bind, Except.bind]
  · rcases hentries : fs.entries? found.node with _ | entries
    · simp [bind, Except.bind, hentries]
    · simp [bind, Except.bind, hentries, eq_comm]

/-- A name is free exactly if no entry has it. -/
theorem lookup_eq_none_iff {entries : List (Bytes × NodeId)} :
    lookup entries name = none ↔ name ∉ entries.map (·.1) :=
  KeyedEntries.find_eq_none_iff

namespace MadeAndEmptied

variable (h : before.MadeAndEmptied mask made emptied after)

include h

/-! ### Directories and links -/

/-- A directory has the entries that it had, and those of the new files in it. -/
theorem entries?_of_before {old : List (Bytes × NodeId)} (hold : before.entries? id = some old) :
    after.entries? id = some (old ++ newEntries before.nodes.size made id) := by
  unfold entries? at hold ⊢
  rw [h.node?_eq, nodeAfter]
  rcases hnode : before.node? id with _ | node
  · rw [hnode] at hold
    cases hold
  · rw [hnode] at hold
    cases node with
    | directory entries =>
      cases hold
      rfl
    | removed =>
      -- No file is made in a directory that was removed.
      cases hold
      have hnone : madeIn made id = [] := by
        refine List.eq_nil_iff_forall_not_mem.2 fun name hname => ?_
        obtain ⟨entries, hentries, -⟩ := h.free _ (mem_madeIn.1 hname)
        rw [hnode] at hentries
        cases hentries
      rw [← map_fst_newEntries before.nodes.size, List.map_eq_nil_iff] at hnone
      simp only [hnone, List.append_nil]
    | file | link | device => cases hold

/-- What is a directory was one. -/
theorem entries?_of_after {entries : List (Bytes × NodeId)}
    (hafter : after.entries? id = some entries) :
    ∃ old, before.entries? id = some old := by
  unfold entries? at hafter ⊢
  rw [h.node?_eq, nodeAfter] at hafter
  rcases hnode : before.node? id with _ | node
  · rw [hnode] at hafter
    dsimp only at hafter
    split_ifs at hafter
  · rw [hnode] at hafter
    cases node <;> simp_all

/-- The same nodes are links. -/
theorem node?_link_iff {target : Path} :
    after.node? id = some (.link target) ↔ before.node? id = some (.link target) := by
  rw [h.node?_eq, nodeAfter]
  rcases before.node? id with _ | node
  · simp only [reduceCtorEq, iff_false]
    split_ifs <;> simp
  · cases node <;> simp

/-- What a directory has under a name it had before, or the name was free and now is that of a file:
    of no directory, and of no link. -/
theorem lookup_after {entries : List (Bytes × NodeId)} {directory : NodeId}
    (hafter : after.entries? directory = some entries) (hchild : lookup entries name = some child) :
    ∃ old, before.entries? directory = some old ∧ (lookup old name = some child ∨
      lookup old name = none ∧ after.entries? child = none ∧
        ∀ target, after.node? child ≠ some (.link target)) := by
  obtain ⟨old, hold⟩ := h.entries?_of_after hafter
  refine ⟨old, hold, ?_⟩
  rw [h.entries?_of_before hold] at hafter
  cases hafter
  rw [lookup_append] at hchild
  rcases hname : lookup old name with _ | id
  · rw [hname, Option.none_or] at hchild
    have hnone : before.node? child = none :=
      node?_eq_none_iff.2 (le_of_mem_newEntries (mem_of_lookup hchild))
    refine .inr ⟨rfl, ?_⟩
    unfold entries?
    rw [h.node?_eq, nodeAfter, hnone]
    dsimp only
    split_ifs <;> simp
  · rw [hname, Option.some_or] at hchild
    exact .inl hchild

/-- Directories keep what they have under a name, and links their targets. -/
theorem keepsNames : KeepsNames before after where
  entries := by
    intro id old hold
    refine ⟨_, h.entries?_of_before hold, fun {name child} hchild => ?_⟩
    rw [lookup_append, hchild, Option.some_or]
  link_iff := h.node?_link_iff

/-- A walk leads to where it led. -/
theorem walk_ok (hwalk : before.walk links at' parts = .ok found) :
    after.walk links at' parts = .ok found :=
  h.keepsNames.walk_ok hwalk

/-- **Back.** A walk that leads to a directory led there before: it goes by no new name, for there
    is nothing below a file. -/
theorem walk_of_directory (hwalk : after.walk links at' parts = .ok found)
    (hfound : after.entries? found.node ≠ none) : before.walk links at' parts = .ok found := by
  fun_induction FileSystem.walk after links at' parts with
  | case1 links at' =>
    rw [walk_nil, hwalk]
  | case2 | case5 | case6 | case7 => cases hwalk
  | case3 links at' part rest entries hentries hblank ih =>
    obtain ⟨old, hold⟩ := h.entries?_of_after hentries
    rw [walk_blank hold hblank, ih hwalk]
  | case4 links at' rest entries hentries hblank ih =>
    obtain ⟨old, hold⟩ := h.entries?_of_after hentries
    rw [walk_above hold, ih hwalk]
  | case8 at' part rest entries hentries hblank habove hlength id hlookup target hlink links ih =>
    obtain ⟨old, hold, hname | ⟨-, -, hnew⟩⟩ := h.lookup_after hentries hlookup
    · rw [walk_link hold hblank habove hlength hname (h.node?_link_iff.1 hlink)]
      exact ih hwalk
    · exact absurd hlink (hnew target)
  | case9 links at' part rest entries hentries hblank habove hlength id hlookup hlink ih =>
    obtain ⟨old, hold, hname | ⟨-, hnew, -⟩⟩ := h.lookup_after hentries hlookup
    · have hlink' : ∀ target, before.node? id ≠ some (.link target) :=
        fun target htarget => hlink target (h.node?_link_iff.2 htarget)
      rw [walk_entry hold hblank habove hlength hname hlink', ih hwalk]
    · -- The walk ends at the file, or does not get beyond it.
      cases rest with
      | nil =>
        rw [walk_nil] at hwalk
        cases hwalk
        exact absurd hnew hfound
      | cons next rest =>
        obtain ⟨entries', hentries'⟩ := walk_cons_eq_ok hwalk
        exact absurd (hnew.symm.trans hentries') (by simp)

/-! ### Files that would be made -/

/-- The last name of a way is in a directory that was one, and in which a name that is free now was
    free. -/
theorem endsIn_of_after {directory : Location} {entries : List (Bytes × NodeId)}
    (hends : after.EndsIn links at' parts directory name entries) :
    ∃ old, before.EndsIn links at' parts directory name old ∧
      (lookup entries name = none → lookup old name = none) := by
  obtain ⟨⟨front, hparts, hwalk⟩, hholds, hblank, habove, hshort⟩ := hends
  have hnode := hholds
  rw [h.node?_eq] at hnode
  obtain ⟨old, hold, rfl⟩ := nodeAfter_eq_directory hnode
  have hentries : after.entries? directory.node ≠ none := by
    rw [entries?, hholds]
    simp
  refine ⟨old, ⟨⟨front, hparts, h.walk_of_directory hwalk hentries⟩, hold, hblank, habove, hshort⟩,
    fun hfree => ?_⟩
  rw [lookup_append, Option.or_eq_none_iff] at hfree
  exact hfree.1

/-- A path under which a file would be made is one under which it would have been made before. -/
theorem reaches_of_after {directory : Location}
    (hreaches : after.Reaches links at' parts (.vacant directory name)) :
    before.Reaches links at' parts (.vacant directory name) := by
  -- By induction on the links that are followed: none of them is new, for new nodes are files.
  generalize hplace : Place.vacant directory name = place at hreaches ⊢
  induction hreaches with
  | walked | entry => cases hplace
  | vacant hends hfree =>
    obtain ⟨old, hends', hfree'⟩ := h.endsIn_of_after hends
    exact .vacant hends' (hfree' hfree)
  | @link links at' parts directory name entries id target place hends hid hlink _ ih =>
    obtain ⟨old, hends', -⟩ := h.endsIn_of_after hends
    have hentries : after.entries? directory.node = some entries := by rw [entries?, hends.holds]
    obtain ⟨old', hold', hname | ⟨-, -, hnew⟩⟩ := h.lookup_after hentries hid
    · rw [entries?, hends'.holds] at hold'
      cases hold'
      exact .link hends' hname (h.node?_link_iff.1 hlink) (ih hplace)
    · exact absurd hlink (hnew target)

/-- It is one still, unless the file was made. -/
theorem reaches_or_taken {directory : Location}
    (hreaches : before.Reaches links at' parts (.vacant directory name)) :
    after.Reaches links at' parts (.vacant directory name) ∨
      after.named? directory.node name ≠ none := by
  generalize hplace : Place.vacant directory name = place at hreaches ⊢
  induction hreaches with
  | walked | entry => cases hplace
  | vacant hends hfree =>
    cases hplace
    obtain ⟨⟨front, hparts, hwalk⟩, hholds, hblank, habove, hshort⟩ := hends
    have hholds' := h.node?_eq directory.node
    rw [nodeAfter, hholds] at hholds'
    dsimp only at hholds'
    rcases htaken : after.named? directory.node name with _ | id
    · rw [named?_eq hholds'] at htaken
      exact .inl (.vacant
        ⟨⟨front, hparts, h.walk_ok hwalk⟩, hholds', hblank, habove, hshort⟩ htaken)
    · exact .inr (by simp)
  | link hends hid hlink _ ih =>
    obtain ⟨entries', hends', hid'⟩ := hends.of_keepsNames hid h.keepsNames
    exact (ih hplace).imp_left (.link hends' hid' (h.node?_link_iff.2 hlink))

theorem makes_of_after (hmakes : after.Makes start path id name) :
    before.Makes start path id name := by
  obtain ⟨place, hplace, hid⟩ := hmakes
  obtain ⟨hcheck, hreaches⟩ := locateNew_eq_ok.1 hplace
  exact ⟨place, locateNew_eq_ok.2 ⟨hcheck, h.reaches_of_after hreaches⟩, hid⟩

theorem makes_or_taken (hmakes : before.Makes start path id name) :
    after.Makes start path id name ∨ after.named? id name ≠ none := by
  obtain ⟨place, hplace, rfl⟩ := hmakes
  obtain ⟨hcheck, hreaches⟩ := locateNew_eq_ok.1 hplace
  refine (h.reaches_or_taken hreaches).imp_left fun hreaches' => ?_
  exact ⟨place, locateNew_eq_ok.2 ⟨hcheck, hreaches'⟩, rfl⟩

/-! ### Reading a directory -/

/-- A directory that could be read is where it was, and has the entries that it had and those of the
    new files in it. -/
theorem readDirectory_ok {names : List Bytes} (hread : before.readDirectory start path = .ok names) :
    ∃ found old entries, before.locate start path = .ok found ∧
      before.entries? found.node = some old ∧ names = old.map (·.1) ∧
      after.locate start path = .ok found ∧ after.entries? found.node = some entries ∧
      entries.map (·.1) = names ++ madeIn made found.node ∧
      after.readDirectory start path = .ok (entries.map (·.1)) := by
  obtain ⟨hnul, found, old, hlocate, hold, rfl⟩ := readDirectory_eq_ok.1 hread
  obtain ⟨hcheck, hwalk⟩ := locate_eq_ok.1 hlocate
  have hlocate' := locate_eq_ok.2 ⟨hcheck, h.walk_ok hwalk⟩
  have hentries := h.entries?_of_before hold
  refine ⟨found, old, _, hlocate, hold, rfl, hlocate', hentries, ?_,
    readDirectory_eq_ok.2 ⟨hnul, found, _, hlocate', hentries, rfl⟩⟩
  rw [List.map_append, map_fst_newEntries]

/-- What cannot be read could not be read before. -/
theorem readDirectory_error {cause : IoError}
    (hread : before.readDirectory start path = .error cause) :
    ∃ cause', after.readDirectory start path = .error cause' := by
  rcases hafter : after.readDirectory start path with cause' | names
  · exact ⟨cause', rfl⟩
  · obtain ⟨hnul, found, entries, hlocate, hentries, rfl⟩ := readDirectory_eq_ok.1 hafter
    obtain ⟨hcheck, hwalk⟩ := locate_eq_ok.1 hlocate
    obtain ⟨old, hold⟩ := h.entries?_of_after hentries
    have hwalk' := h.walk_of_directory hwalk (by simp [hentries])
    have hok := readDirectory_eq_ok.2
      ⟨hnul, found, old, locate_eq_ok.2 ⟨hcheck, hwalk'⟩, hold, rfl⟩
    rw [hread] at hok
    cases hok

/-- No two new files in a directory have one name, and none has a name that was there. -/
theorem nodup_names {entries : List (Bytes × NodeId)} (hentries : before.entries? id = some entries)
    (hdistinct : (entries.map (·.1)).Nodup) :
    (entries.map (·.1) ++ madeIn made id).Nodup := by
  refine List.nodup_append'.2 ⟨hdistinct, ?_, fun name hold hnew => ?_⟩
  · refine List.Nodup.map_on ?_ (h.nodup.filter _)
    rintro ⟨here, name⟩ hplace ⟨here', name'⟩ hplace' rfl
    simp only [List.mem_filter, decide_eq_true_eq] at hplace hplace'
    rw [hplace.2, hplace'.2]
  · obtain ⟨old, hold', hfree⟩ := h.free _ (mem_madeIn.1 hnew)
    rw [entries?, hold'] at hentries
    cases hentries
    exact lookup_eq_none_iff.1 hfree hold

end MadeAndEmptied

end FileSystem

/-! ### Directives -/

namespace Redirection

open FileSystem

variable {mask : Nat} {start : Location} {directory : Path} {fs files : FileSystem}
  {r : Redirection}
  {handle : Handle} {opened opened' : OpenedFiles} {rs : List Redirection} {id : NodeId}
  {name : Bytes}

/-- The directive makes a file under the name in the directory. -/
def Makes (r : Redirection) (start : Location) (directory : Path) (fs : FileSystem) (id : NodeId)
    (name : Bytes) : Prop :=
  r.isOutput = true ∧ fs.Makes start (directory.join r.path) id name

/-- Opening a directive makes files and empties some, and does nothing else. -/
theorem madeAndEmptied_of_openIn (h : r.openIn mask start directory fs = .ok (files, handle)) :
    ∃ made emptied, fs.MadeAndEmptied mask made emptied files := by
  obtain ⟨made, hopened⟩ := (OpenedTargets.nil mask start directory fs).concat h
  exact ⟨made, _, hopened.table⟩

/-- A file that is made has its name. -/
theorem named?_of_openIn (h : r.openIn mask start directory fs = .ok (files, handle))
    (hmakes : r.Makes start directory fs id name) : files.named? id name ≠ none := by
  obtain ⟨houtput, place, hplace, rfl⟩ := hmakes
  obtain ⟨-, hopen⟩ := guarded_eq_ok.1 (openOutput_of_openIn houtput h).1
  obtain ⟨-, hreaches⟩ := locateNew_eq_ok.1 hplace
  obtain ⟨entries, hentries, -⟩ := hreaches.exists_entries
  simp only [openForWriting, hplace, bind, Except.bind] at hopen
  have hfiles : (fs.addEntry place.node name (.file (outputMode mask) [])).1 = files :=
    congrArg Prod.fst (Except.ok.inj hopen)
  rw [← hfiles, named?_addEntry hentries, if_pos rfl]
  simp

/-- **One directive.** The names in a directory are those that it had, and that of the file that the
    directive makes in it. -/
theorem named?_openIn_iff (h : r.openIn mask start directory fs = .ok (files, handle)) (id : NodeId)
    (name : Bytes) :
    files.named? id name ≠ none ↔ fs.named? id name ≠ none ∨ r.Makes start directory fs id name := by
  refine ⟨fun hnamed => ?_, fun hbefore => hbefore.elim (fun hnamed => ?_) (named?_of_openIn h)⟩
  · rcases houtput : r.isOutput
    · obtain ⟨-, rfl, -⟩ := openInput_of_openIn houtput h
      exact .inl hnamed
    · by_cases hmakes : fs.Makes start (directory.join r.path) id name
      · exact .inr ⟨houtput, hmakes⟩
      · rw [(openIn_opensTo houtput h).1.namesAlike.named id name hmakes] at hnamed
        exact .inl hnamed
  · obtain ⟨made, emptied, htable⟩ := madeAndEmptied_of_openIn h
    obtain ⟨child, hchild⟩ := Option.ne_none_iff_exists'.1 hnamed
    obtain ⟨entries, hentries, hlookup⟩ := Option.bind_eq_some_iff.1 hchild
    obtain ⟨grown, hgrown, hkept⟩ := htable.keepsNames.entries hentries
    rw [named?, hgrown, Option.bind_some, hkept hlookup]
    simp

/-- **All directives.** Once they are opened, the names in a directory are those that it had, and
    those of the files that the directives make in it. -/
theorem Opens.named?_iff (h : Opens mask start directory fs opened rs files opened') (id : NodeId)
    (name : Bytes) :
    files.named? id name ≠ none ↔
      fs.named? id name ≠ none ∨ ∃ r ∈ rs, r.Makes start directory fs id name := by
  induction h with
  | nil => simp
  | @cons fs opened r rest fs₁ handle files opened' hr _ ih =>
    obtain ⟨made, emptied, htable⟩ := madeAndEmptied_of_openIn hr
    rw [ih, named?_openIn_iff hr, List.exists_mem_cons_iff]
    constructor
    · rintro ((hnamed | hmakes) | ⟨r', hr', houtput, hmakes⟩)
      · exact .inl hnamed
      · exact .inr (.inl hmakes)
      · exact .inr (.inr ⟨r', hr', houtput, htable.makes_of_after hmakes⟩)
    · rintro (hnamed | hmakes | ⟨r', hr', houtput, hmakes⟩)
      · exact .inl (.inl hnamed)
      · exact .inl (.inr hmakes)
      · -- The file is still to be made, or the first directive made it.
        rcases htable.makes_or_taken hmakes with hstill | htaken
        · exact .inr ⟨r', hr', houtput, hstill⟩
        · exact .inl ((named?_openIn_iff hr id name).1 htaken)

/-- The new files in a directory are those that the directives make. -/
theorem Opens.mem_madeIn_iff (h : Opens mask start directory fs opened rs files opened')
    {made : List (NodeId × Bytes)} {emptied : List NodeId}
    (htable : fs.MadeAndEmptied mask made emptied files) {entries : List (Bytes × NodeId)}
    (hentries : fs.entries? id = some entries) :
    name ∈ madeIn made id ↔ ∃ r ∈ rs, r.Makes start directory fs id name := by
  have hbefore : fs.named? id name ≠ none ↔ name ∈ entries.map (·.1) := by
    rw [named?, hentries, Option.bind_some, ne_eq, lookup_eq_none_iff, not_not]
  have hafter : files.named? id name ≠ none ↔ name ∈ entries.map (·.1) ∨ name ∈ madeIn made id := by
    rw [named?, htable.entries?_of_before hentries, Option.bind_some, ne_eq, lookup_eq_none_iff,
      not_not, List.map_append, map_fst_newEntries, List.mem_append]
  have hnames := h.named?_iff id name
  rw [hbefore, hafter] at hnames
  -- The name of a file that is made is none of those that were there.
  constructor
  · intro hmade
    obtain ⟨old, hold, hfree⟩ := htable.free _ (mem_madeIn.1 hmade)
    rw [entries?, hold] at hentries
    cases hentries
    exact (hnames.1 (.inr hmade)).resolve_left (lookup_eq_none_iff.1 hfree)
  · intro hmakes
    refine (hnames.2 (.inr hmakes)).resolve_left fun hold => ?_
    obtain ⟨r, -, -, place, hplace, rfl⟩ := hmakes
    obtain ⟨old, hnode, hfree⟩ := (locateNew_eq_ok.1 hplace).2.exists_entries
    rw [entries?, hnode] at hentries
    cases hentries
    exact lookup_eq_none_iff.1 hfree hold

end Redirection

end CommandShell
