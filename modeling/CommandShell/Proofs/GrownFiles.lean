import CommandShell.FileSystem.Change
import CommandShell.Proofs.KeyedEntries
import Mathlib.Tactic.Common

namespace CommandShell

/-!
# GrownFiles — file systems in which files were written and made

A run that only opens and writes files of one directory leaves everything else of a file system in
place, so whatever a path led to it still leads to.

* `FileSystem.node?_setNode_self`, `FileSystem.node?_addEntry_new`, … — the table after a change;
* `FileSystem.Grown` — the same nodes, but for the bytes of some files, and new files in one
  directory;
* `FileSystem.Grown.setContent`, `FileSystem.Grown.addEntry` — what grows a file system;
* `FileSystem.KeepsNames.walk_ok`, `FileSystem.Grown.walk_ok` — a path that led somewhere still leads
  there;
* `FileSystem.Grown.walk_cases` — a path that leads somewhere led there before, or leads to a new
  file.
-/

namespace FileSystem

/-! ### The table after a change -/

theorem node?_setNode_self {fs : FileSystem} {id : NodeId} {old : Node}
    (h : fs.node? id = some old) (node : Node) : (fs.setNode id node).node? id = some node := by
  obtain ⟨hid, -⟩ := Array.getElem?_eq_some_iff.1 h
  exact Array.getElem?_setIfInBounds_self_of_lt hid

/-- A node that is there already can be put there. -/
theorem setNode_self {fs : FileSystem} {id : NodeId} {node : Node}
    (h : fs.node? id = some node) : fs.setNode id node = fs := by
  obtain ⟨hid, hnode⟩ := Array.getElem?_eq_some_iff.1 h
  subst hnode
  rw [setNode, Array.setIfInBounds_def, dif_pos hid, Array.set_getElem_self]

theorem node?_setNode_of_ne {id id' : NodeId} (h : id' ≠ id) (fs : FileSystem) (node : Node) :
    (fs.setNode id node).node? id' = fs.node? id' :=
  Array.getElem?_setIfInBounds_ne h.symm

/-- The table has no node under the number that the next one gets. -/
theorem node?_size (fs : FileSystem) : fs.node? fs.nodes.size = none :=
  Array.getElem?_eq_none (Nat.le_refl _)

theorem lookup_append (entries new : List (Bytes × NodeId)) (name : Bytes) :
    lookup (entries ++ new) name = (lookup entries name).or (lookup new name) := by
  rw [lookup, List.find?_append]
  cases hfind : entries.find? (·.1 = name) <;> simp [lookup, hfind]

theorem lookup_singleton (name : Bytes) (id : NodeId) (name' : Bytes) :
    lookup [(name, id)] name' = if name = name' then some id else none := by
  rw [lookup, List.find?_singleton]
  by_cases hname : name = name' <;> simp [hname]

/-- A name that is found is that of an entry. -/
theorem mem_of_lookup {entries : List (Bytes × NodeId)} {name : Bytes} {id : NodeId}
    (h : lookup entries name = some id) : (name, id) ∈ entries :=
  KeyedEntries.mem_of_find h

/-- Numbers of nodes that are there come before the next one. -/
theorem lt_size_of_node? {fs : FileSystem} {id : NodeId} {node : Node}
    (h : fs.node? id = some node) : id < fs.nodes.size :=
  (Array.getElem?_eq_some_iff.1 h).1

/-- A directory that gets an entry: its other entries stay, and so do the other nodes; the new node
    gets the next number. -/
theorem addEntry_spec {fs : FileSystem} {here : NodeId} {entries : List (Bytes × NodeId)}
    (h : fs.node? here = some (.directory entries)) (name : Bytes) (node : Node) :
    (fs.addEntry here name node).2 = fs.nodes.size ∧
      ∀ id, (fs.addEntry here name node).1.node? id =
        if id = here then some (.directory (entries ++ [(name, fs.nodes.size)]))
        else if id = fs.nodes.size then some node else fs.node? id := by
  have hhere : here ≠ fs.nodes.size := Nat.ne_of_lt (lt_size_of_node? h)
  have hpush : ∀ id, node? ⟨fs.nodes.push node⟩ id
      = if id = fs.nodes.size then some node else fs.node? id := fun id => Array.getElem?_push
  have hgrown : node? ⟨fs.nodes.push node⟩ here = some (.directory entries) := by
    rw [hpush, if_neg hhere, h]
  have hadd : fs.addEntry here name node =
      (setNode ⟨fs.nodes.push node⟩ here (.directory (entries ++ [(name, fs.nodes.size)])),
        fs.nodes.size) := by
    unfold addEntry
    simp only [hgrown]
  rw [hadd]
  refine ⟨rfl, fun id => ?_⟩
  by_cases hid : id = here
  · rw [if_pos hid, hid]
    exact node?_setNode_self hgrown _
  · rw [if_neg hid]
    exact (node?_setNode_of_ne hid _ _).trans (hpush id)

/-! ### Steps of a walk -/

section Walk

variable {fs : FileSystem} {links : Nat} {at' : Location} {part : Bytes}
  {rest : List Bytes} {found : Location} {entries : List (Bytes × NodeId)}

@[simp] theorem walk_nil (fs : FileSystem) (links : Nat) (at' : Location) :
    fs.walk links at' [] = .ok at' := by
  rw [walk]

theorem walk_blank (hentries : fs.entries? at'.node = some entries) (hpart : Path.isBlank part)
    (rest : List Bytes) : fs.walk links at' (part :: rest) = fs.walk links at' rest := by
  rw [walk, hentries]
  simp only [hpart, if_true]

theorem walk_above (hentries : fs.entries? at'.node = some entries) (rest : List Bytes) :
    fs.walk links at' (Path.above :: rest) = fs.walk links at'.parent rest := by
  have hblank : ¬ Path.isBlank Path.above := by decide
  rw [walk, hentries]
  simp only [if_neg hblank, if_true]

/-- A link is replaced by its target. -/
theorem walk_link (hentries : fs.entries? at'.node = some entries) (hblank : ¬ Path.isBlank part)
    (habove : part ≠ Path.above) (hlength : ¬ part.length > nameLimit) {id : NodeId}
    (hlookup : lookup entries part = some id) {target : Path}
    (hlink : fs.node? id = some (.link target)) (rest : List Bytes) :
    fs.walk (links + 1) at' (part :: rest)
      = fs.walk links (if target.isAbsolute then .root else at') (target.segments ++ rest) := by
  rw [walk, hentries]
  simp only [if_neg hblank, if_neg habove, if_neg hlength, hlookup, hlink]

/-- Any other entry is gone into. -/
theorem walk_entry (hentries : fs.entries? at'.node = some entries) (hblank : ¬ Path.isBlank part)
    (habove : part ≠ Path.above) (hlength : ¬ part.length > nameLimit) {id : NodeId}
    (hlookup : lookup entries part = some id) (hlink : ∀ target, fs.node? id ≠ some (.link target))
    (rest : List Bytes) :
    fs.walk links at' (part :: rest) = fs.walk links (at'.child part id) rest := by
  rw [walk, hentries]
  simp only [if_neg hblank, if_neg habove, if_neg hlength, hlookup]

/-- Nothing is below what is no directory. -/
theorem walk_cons_eq_ok (h : fs.walk links at' (part :: rest) = .ok found) :
    ∃ entries, fs.entries? at'.node = some entries := by
  rcases hentries : fs.entries? at'.node with _ | entries
  · rw [walk, hentries] at h
    cases h
  · exact ⟨entries, rfl⟩

end Walk

/-! ### Names that stay -/

/-- Directories keep what they have under a name, links keep their targets, and nothing becomes a
    link. -/
structure KeepsNames (before after : FileSystem) : Prop where
  /-- What a directory has under a name it has still. -/
  entries : ∀ {id : NodeId} {entries : List (Bytes × NodeId)}, before.entries? id = some entries →
    ∃ grown, after.entries? id = some grown ∧
      ∀ {name child}, lookup entries name = some child → lookup grown name = some child
  /-- The same nodes are links. -/
  link_iff : ∀ {id : NodeId} {target : Path},
    after.node? id = some (.link target) ↔ before.node? id = some (.link target)

/-- A path that led somewhere still leads there. -/
theorem KeepsNames.walk_ok {before after : FileSystem} (h : KeepsNames before after) {links : Nat}
    {at' found : Location} {parts : List Bytes} (hwalk : before.walk links at' parts = .ok found) :
    after.walk links at' parts = .ok found := by
  fun_induction FileSystem.walk before links at' parts with
  | case1 links at' =>
    rw [walk_nil, hwalk]
  -- A walk that failed led nowhere before.
  | case2 | case5 | case6 | case7 =>
    cases hwalk
  | case3 links at' part rest entries hentries hblank ih =>
    obtain ⟨grown, hafter, -⟩ := h.entries hentries
    rw [walk_blank hafter hblank, ih hwalk]
  | case4 links at' rest entries hentries hblank ih =>
    obtain ⟨grown, hafter, -⟩ := h.entries hentries
    rw [walk_above hafter, ih hwalk]
  | case8 at' part rest entries hentries hblank habove hlength id hlookup target hlink links ih =>
    obtain ⟨grown, hafter, hkept⟩ := h.entries hentries
    rw [walk_link hafter hblank habove hlength (hkept hlookup) (h.link_iff.2 hlink)]
    exact ih hwalk
  | case9 links at' part rest entries hentries hblank habove hlength id hlookup hlink ih =>
    obtain ⟨grown, hafter, hkept⟩ := h.entries hentries
    have hlink' : ∀ target, after.node? id ≠ some (.link target) :=
      fun target htarget => hlink target (h.link_iff.1 htarget)
    rw [walk_entry hafter hblank habove hlength (hkept hlookup) hlink', ih hwalk]

/-! ### Growth -/

/-- What a node may become when bytes are written to it: a file keeps its permission bits, and
    anything else stays. -/
inductive Rewritten : Node → Node → Prop
  /-- The bytes of a file may be others. -/
  | file (mode : Nat) (content content' : Bytes) :
    Rewritten (.file mode content) (.file mode content')
  /-- Nodes may stay. -/
  | same (node : Node) : Rewritten node node

/-- A file system after files of `written` were written, and after files were made in the directory
    `here`. -/
structure Grown (here : NodeId) (written : List NodeId) (before after : FileSystem) : Prop where
  /-- The nodes are there still, and only written files have other bytes. -/
  kept : ∀ {id node}, before.node? id = some node → id ≠ here →
    ∃ node', after.node? id = some node' ∧ Rewritten node node' ∧ (id ∉ written → node' = node)
  /-- The directory has new entries at its end, under names that were free, for new nodes. -/
  entered : ∃ entries new, before.node? here = some (.directory entries) ∧
    after.node? here = some (.directory (entries ++ new)) ∧
    ∀ entry ∈ new, lookup entries entry.1 = none ∧ before.node? entry.2 = none ∧
      after.node? entry.2 ≠ none
  /-- The new nodes are files as a redirected output makes them, under some mask. -/
  made : ∀ {id node}, after.node? id = some node → before.node? id = none →
    ∃ mask content, node = .file (outputMode mask) content

namespace Grown

variable {here : NodeId} {written : List NodeId} {before after : FileSystem}

/-- Nothing is written or made yet. -/
theorem refl {fs : FileSystem} {entries : List (Bytes × NodeId)}
    (h : fs.node? here = some (.directory entries)) : Grown here written fs fs where
  kept := fun {_ node} hnode _ => ⟨node, hnode, .same node, fun _ => rfl⟩
  entered := ⟨entries, [], h, by rw [List.append_nil, h], by simp⟩
  made := by
    intro id node hnode hnone
    rw [hnone] at hnode
    cases hnode

/-- Nodes that were there are not `here` if they are no directories. -/
theorem ne_here {id : NodeId} {mode : Nat} {content : Bytes} (h : Grown here written before after)
    (hfile : after.node? id = some (.file mode content)) : id ≠ here := by
  rintro rfl
  obtain ⟨entries, new, -, hentries, -⟩ := h.entered
  rw [hentries] at hfile
  cases hfile

/-- A file may be written if it is one of those, or if it is new. -/
theorem setContent (h : Grown here written before after) {id : NodeId} {mode : Nat}
    {content : Bytes} (hfile : after.node? id = some (.file mode content))
    (hid : id ∈ written ∨ before.node? id = none) (content' : Bytes) :
    Grown here written before (after.setNode id (.file mode content')) := by
  have hself := node?_setNode_self hfile (.file mode content')
  have hhere := h.ne_here hfile
  refine ⟨?_, ?_, ?_⟩
  · intro id' node hnode hne
    obtain ⟨node', hafter, hrewritten, hsame⟩ := h.kept hnode hne
    by_cases heq : id' = id
    · subst heq
      rcases hid with hwritten | hnew
      · rw [hfile] at hafter
        cases hafter
        refine ⟨_, hself, ?_, fun hnot => absurd hwritten hnot⟩
        rcases hrewritten with ⟨_, old, _⟩ | _
        · exact .file mode old content'
        · exact .file mode content content'
      · rw [hnew] at hnode
        cases hnode
    · exact ⟨node', by rw [node?_setNode_of_ne heq, hafter], hrewritten, hsame⟩
  · obtain ⟨entries, new, hbefore, hentries, hnew⟩ := h.entered
    refine ⟨entries, new, hbefore, by rw [node?_setNode_of_ne hhere.symm, hentries], ?_⟩
    intro entry hentry
    obtain ⟨hfree, hfresh, hthere⟩ := hnew entry hentry
    refine ⟨hfree, hfresh, ?_⟩
    by_cases heq : entry.2 = id
    · rw [heq, hself]
      simp
    · rwa [node?_setNode_of_ne heq]
  · intro id' node hnode hnone
    by_cases heq : id' = id
    · subst heq
      obtain ⟨mask, _, hmade⟩ := h.made hfile hnone
      rw [hself] at hnode
      cases hnode
      cases hmade
      exact ⟨mask, content', rfl⟩
    · rw [node?_setNode_of_ne heq] at hnode
      exact h.made hnode hnone

/-- The number that the next node gets was free before, too. -/
theorem node?_size (h : Grown here written before after) :
    before.node? after.nodes.size = none := by
  obtain ⟨old, new, -, hafter, -⟩ := h.entered
  have hne : after.nodes.size ≠ here := Nat.ne_of_gt (lt_size_of_node? hafter)
  rcases hsize : before.node? after.nodes.size with _ | node
  · rfl
  · obtain ⟨node', hnode', -⟩ := h.kept hsize hne
    rw [FileSystem.node?_size] at hnode'
    cases hnode'

/-- A file may be made under a free name. -/
theorem addEntry (h : Grown here written before after) {entries : List (Bytes × NodeId)}
    {name : Bytes} (hentries : after.node? here = some (.directory entries))
    (hfree : lookup entries name = none) (mask : Nat) (content : Bytes) :
    Grown here written before (after.addEntry here name (.file (outputMode mask) content)).1 := by
  obtain ⟨-, hnode?⟩ := addEntry_spec hentries name (.file (outputMode mask) content)
  have hfresh := h.node?_size
  refine ⟨?_, ?_, ?_⟩
  · intro id node hnode hne
    obtain ⟨node', hafter, hrewritten, hsame⟩ := h.kept hnode hne
    have hsize : id ≠ after.nodes.size := Nat.ne_of_lt (lt_size_of_node? hafter)
    exact ⟨node', by rw [hnode?, if_neg hne, if_neg hsize, hafter], hrewritten, hsame⟩
  · obtain ⟨old, new, hbefore, hafter, hnew⟩ := h.entered
    rw [hentries] at hafter
    cases hafter
    refine ⟨old, new ++ [(name, after.nodes.size)], hbefore, ?_, ?_⟩
    · rw [hnode?, if_pos rfl, List.append_assoc]
    · intro entry hentry
      rcases List.mem_append.1 hentry with hentry | hentry
      · obtain ⟨hname, hnone, hthere⟩ := hnew entry hentry
        refine ⟨hname, hnone, ?_⟩
        rw [hnode?]
        split_ifs
        · simp
        · simp
        · exact hthere
      · cases List.mem_singleton.1 hentry
        rw [lookup_append, Option.or_eq_none_iff] at hfree
        refine ⟨hfree.1, hfresh, ?_⟩
        have hne : after.nodes.size ≠ here := Nat.ne_of_gt (lt_size_of_node? hentries)
        rw [hnode?, if_neg hne, if_pos rfl]
        simp
  · intro id node hnode hnone
    rw [hnode?] at hnode
    split_ifs at hnode with hhere hsize
    · obtain ⟨old, new, hbefore, -, -⟩ := h.entered
      rw [hhere, hbefore] at hnone
      cases hnone
    · cases hnode
      exact ⟨mask, content, rfl⟩
    · exact h.made hnode hnone

/-! ### Paths in a grown file system -/

/-- Directories keep what they have under a name. -/
theorem entries?_of_some (h : Grown here written before after) {id : NodeId}
    {entries : List (Bytes × NodeId)} (hentries : before.entries? id = some entries) :
    ∃ grown, after.entries? id = some grown ∧
      ∀ {name child}, lookup entries name = some child → lookup grown name = some child := by
  by_cases hid : id = here
  · obtain ⟨old, new, hbefore, hafter, -⟩ := h.entered
    subst hid
    unfold FileSystem.entries? at hentries ⊢
    rw [hbefore] at hentries
    cases hentries
    refine ⟨entries ++ new, by rw [hafter], fun {name child} hlookup => ?_⟩
    rw [lookup_append, hlookup, Option.some_or]
  · refine ⟨entries, ?_, fun hlookup => hlookup⟩
    unfold FileSystem.entries? at hentries ⊢
    rcases hnode : before.node? id with _ | node
    · rw [hnode] at hentries
      cases hentries
    · obtain ⟨node', hafter, hrewritten, -⟩ := h.kept hnode hid
      rw [hnode] at hentries
      rw [hafter]
      cases hrewritten with
      | file => cases hentries
      | same => exact hentries

/-- What is a directory was one before, and had what it has, but for new nodes. -/
theorem entries?_before (h : Grown here written before after) {id : NodeId}
    {entries : List (Bytes × NodeId)} (hentries : after.entries? id = some entries) :
    ∃ old, before.entries? id = some old ∧ ∀ {name child}, lookup entries name = some child →
      lookup old name = some child ∨ before.node? child = none := by
  by_cases hid : id = here
  · obtain ⟨old, new, hbefore, hafter, hnew⟩ := h.entered
    subst hid
    unfold FileSystem.entries? at hentries ⊢
    rw [hafter] at hentries
    cases hentries
    refine ⟨old, by rw [hbefore], fun {name child} hlookup => ?_⟩
    rw [lookup_append] at hlookup
    rcases Option.or_eq_some_iff.1 hlookup with hold | ⟨-, hlookup⟩
    · exact .inl hold
    · exact .inr (hnew _ (mem_of_lookup hlookup)).2.1
  · unfold FileSystem.entries? at hentries ⊢
    rcases hnode : before.node? id with _ | node
    · rcases hafter : after.node? id with _ | node'
      · rw [hafter] at hentries
        cases hentries
      · obtain ⟨mask, content, rfl⟩ := h.made hafter hnode
        rw [hafter] at hentries
        cases hentries
    · obtain ⟨node', hafter, hrewritten, -⟩ := h.kept hnode hid
      rw [hafter] at hentries
      cases hrewritten with
      | file => cases hentries
      | same => exact ⟨entries, hentries, fun hlookup => .inl hlookup⟩

/-- Links lead where they led, and nothing becomes one. -/
theorem link_iff (h : Grown here written before after) {id : NodeId} {target : Path} :
    after.node? id = some (.link target) ↔ before.node? id = some (.link target) := by
  constructor
  · intro hafter
    rcases hnode : before.node? id with _ | node
    · obtain ⟨mask, content, hfile⟩ := h.made hafter hnode
      cases hfile
    · by_cases hid : id = here
      · obtain ⟨old, new, -, hdirectory, -⟩ := h.entered
        rw [hid, hdirectory] at hafter
        cases hafter
      · obtain ⟨node', hnode', hrewritten, -⟩ := h.kept hnode hid
        rw [hafter] at hnode'
        cases hnode'
        cases hrewritten
        rfl
  · intro hnode
    have hid : id ≠ here := by
      rintro rfl
      obtain ⟨old, new, hdirectory, -, -⟩ := h.entered
      rw [hdirectory] at hnode
      cases hnode
    obtain ⟨node', hafter, hrewritten, -⟩ := h.kept hnode hid
    cases hrewritten
    exact hafter

/-- So paths that led somewhere are not led elsewhere. -/
theorem keepsNames (h : Grown here written before after) : KeepsNames before after :=
  ⟨h.entries?_of_some, h.link_iff⟩

/-- A path that led somewhere still leads there. -/
theorem walk_ok (h : Grown here written before after) {links : Nat} {at' found : Location}
    {parts : List Bytes} (hwalk : before.walk links at' parts = .ok found) :
    after.walk links at' parts = .ok found :=
  h.keepsNames.walk_ok hwalk

/-- What is new is no directory, so a way that goes on from it fails. -/
theorem rest_eq_nil (h : Grown here written before after) {links : Nat} {at' found : Location}
    {rest : List Bytes} (hnew : before.node? at'.node = none)
    (hwalk : after.walk links at' rest = .ok found) : found = at' := by
  rcases rest with _ | ⟨part, rest⟩
  · rw [walk_nil] at hwalk
    cases hwalk
    rfl
  · obtain ⟨entries, hentries⟩ := walk_cons_eq_ok hwalk
    obtain ⟨old, hold, -⟩ := h.entries?_before hentries
    rw [FileSystem.entries?, hnew] at hold
    cases hold

/-- A path that leads somewhere led there before, or leads to what is new. -/
theorem walk_cases (h : Grown here written before after) {links : Nat} {at' found : Location}
    {parts : List Bytes} (hwalk : after.walk links at' parts = .ok found) :
    before.walk links at' parts = .ok found ∨ before.node? found.node = none := by
  fun_induction FileSystem.walk after links at' parts with
  | case1 links at' =>
    exact .inl (by rw [walk_nil, hwalk])
  | case2 | case5 | case6 | case7 =>
    cases hwalk
  | case3 links at' part rest entries hentries hblank ih =>
    obtain ⟨old, hold, -⟩ := h.entries?_before hentries
    rw [walk_blank hold hblank]
    exact ih hwalk
  | case4 links at' rest entries hentries hblank ih =>
    obtain ⟨old, hold, -⟩ := h.entries?_before hentries
    rw [walk_above hold]
    exact ih hwalk
  | case8 at' part rest entries hentries hblank habove hlength id hlookup target hlink links ih =>
    obtain ⟨old, hold, hcases⟩ := h.entries?_before hentries
    have hlink' := h.link_iff.1 hlink
    rcases hcases hlookup with hlookup' | hnew
    · rw [walk_link hold hblank habove hlength hlookup' hlink']
      exact ih hwalk
    · -- New nodes are files.
      rw [hnew] at hlink'
      cases hlink'
  | case9 links at' part rest entries hentries hblank habove hlength id hlookup hlink ih =>
    obtain ⟨old, hold, hcases⟩ := h.entries?_before hentries
    rcases hcases hlookup with hlookup' | hnew
    · have hlink' : ∀ target, before.node? id ≠ some (.link target) :=
        fun target htarget => hlink target (h.link_iff.2 htarget)
      rw [walk_entry hold hblank habove hlength hlookup' hlink']
      exact ih hwalk
    · have hmade : before.node? (at'.child part id).node = none := hnew
      have hfound := h.rest_eq_nil hmade hwalk
      rw [hfound]
      exact .inr hnew

end Grown

end FileSystem

end CommandShell
