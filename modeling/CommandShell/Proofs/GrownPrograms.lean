import CommandShell.Execution
import CommandShell.Lookup
import CommandShell.Proofs.GrownFiles

namespace CommandShell

/-!
# GrownPrograms — programs that are found and loaded while files are written

Files that a redirected output makes cannot be run, and writing a file does not change its
permission bits. So a program that was found is found again, and one whose files are not written is
loaded again:

* `FileSystem.Grown.isRegular`, `FileSystem.Grown.runs` — what paths lead to;
* `Lookup.find_of_grown` — the program of a name stays;
* `Execution.load_of_grown` — a program that could be loaded while the written files were open is
  loaded still.
-/

namespace FileSystem

/-- Only a path without a NUL byte is handed to the system. -/
theorem guarded_eq_ok {α : Type} {path : Path} {ask : Except Errno α} {a : α} :
    guarded path ask = .ok a ↔ path.bytes.hasNul = false ∧ ask = .ok a := by
  unfold guarded
  by_cases hnul : path.bytes.hasNul <;> cases ask <;> simp [hnul, Except.mapError]

/-- A path leads somewhere if it can be handed to the system and walked. -/
theorem locate_eq_ok {fs : FileSystem} {start found : Location} {path : Path} :
    fs.locate start path = .ok found ↔
      checkPath path = .ok () ∧
        fs.walk linkLimit (startOf start path) path.segments = .ok found := by
  unfold locate
  rcases hcheck : checkPath path with reason | ⟨⟩ <;> simp [bind, Except.bind]

theorem isRegular_iff {fs : FileSystem} {start : Location} {path : Path} :
    fs.isRegular start path = true ↔
      ∃ found mode content, guarded path (fs.locate start path) = .ok found ∧
        fs.node? found.node = some (.file mode content) := by
  unfold isRegular
  rcases guarded path (fs.locate start path) with cause | found
  · simp
  · rcases hnode : fs.node? found.node with _ | node
    · simp [hnode]
    · cases node <;> simp [hnode]

theorem runs_iff {fs : FileSystem} {start : Location} {path : Path} :
    (fs.isRegular start path && fs.isExecutable start path) = true ↔
      ∃ found mode content, guarded path (fs.locate start path) = .ok found ∧
        fs.node? found.node = some (.file mode content) ∧ runnable mode = true := by
  unfold isRegular isExecutable
  rcases guarded path (fs.locate start path) with cause | found
  · simp
  · rcases hnode : fs.node? found.node with _ | node
    · simp [hnode]
    · cases node <;> simp [hnode]

namespace Grown

variable {here : NodeId} {written : List NodeId} {before after : FileSystem} {start : Location}
  {path : Path}

theorem locate_ok (h : Grown here written before after) {found : Location}
    (hfound : before.locate start path = .ok found) : after.locate start path = .ok found := by
  obtain ⟨hcheck, hwalk⟩ := locate_eq_ok.1 hfound
  exact locate_eq_ok.2 ⟨hcheck, h.walk_ok hwalk⟩

theorem locate_cases (h : Grown here written before after) {found : Location}
    (hfound : after.locate start path = .ok found) :
    before.locate start path = .ok found ∨ before.node? found.node = none := by
  obtain ⟨hcheck, hwalk⟩ := locate_eq_ok.1 hfound
  rcases h.walk_cases hwalk with hbefore | hnew
  · exact .inl (locate_eq_ok.2 ⟨hcheck, hbefore⟩)
  · exact .inr hnew

/-- A file is still a file, with the same permission bits. -/
theorem file (h : Grown here written before after) {id : NodeId} {mode : Nat} {content : Bytes}
    (hfile : before.node? id = some (.file mode content)) :
    ∃ content', after.node? id = some (.file mode content') ∧
      (id ∉ written → content' = content) := by
  have hid : id ≠ here := by
    rintro rfl
    obtain ⟨old, new, hdirectory, -⟩ := h.entered
    rw [hdirectory] at hfile
    cases hfile
  obtain ⟨node, hafter, hrewritten, hsame⟩ := h.kept hfile hid
  rcases hrewritten with ⟨_, _, content'⟩ | _
  · refine ⟨content', hafter, fun hnot => ?_⟩
    cases hsame hnot
    rfl
  · exact ⟨content, hafter, fun _ => rfl⟩

/-- What is a file was one with the same permission bits, or is new. -/
theorem file_before (h : Grown here written before after) {id : NodeId} {mode : Nat}
    {content : Bytes} (hfile : after.node? id = some (.file mode content)) :
    (∃ content', before.node? id = some (.file mode content')) ∨
      before.node? id = none ∧ ∃ mask, mode = outputMode mask := by
  rcases hbefore : before.node? id with _ | node
  · obtain ⟨mask, content', hmade⟩ := h.made hfile hbefore
    cases hmade
    exact .inr ⟨rfl, mask, rfl⟩
  · obtain ⟨node', hafter, hrewritten, -⟩ := h.kept hbefore (h.ne_here hfile)
    rw [hfile] at hafter
    cases hafter
    rcases hrewritten with ⟨_, old, _⟩ | _
    · exact .inl ⟨old, rfl⟩
    · exact .inl ⟨content, rfl⟩

/-- Regular files stay where they are. -/
theorem isRegular (h : Grown here written before after)
    (hregular : before.isRegular start path = true) : after.isRegular start path = true := by
  obtain ⟨found, mode, content, hfound, hfile⟩ := isRegular_iff.1 hregular
  obtain ⟨hnul, hlocate⟩ := guarded_eq_ok.1 hfound
  obtain ⟨content', hafter, -⟩ := h.file hfile
  exact isRegular_iff.2
    ⟨found, mode, content', guarded_eq_ok.2 ⟨hnul, h.locate_ok hlocate⟩, hafter⟩

/-- The files that can be run are those that could be run before. -/
theorem runs (h : Grown here written before after) (start : Location) (path : Path) :
    (after.isRegular start path && after.isExecutable start path)
      = (before.isRegular start path && before.isExecutable start path) := by
  rw [Bool.eq_iff_iff, runs_iff, runs_iff]
  constructor
  · rintro ⟨found, mode, content, hfound, hfile, hmode⟩
    obtain ⟨hnul, hlocate⟩ := guarded_eq_ok.1 hfound
    rcases h.file_before hfile with ⟨content', hbefore⟩ | ⟨hnew, mask, rfl⟩
    · rcases h.locate_cases hlocate with hlocate' | hnew
      · exact ⟨found, mode, content', guarded_eq_ok.2 ⟨hnul, hlocate'⟩, hbefore, hmode⟩
      · rw [hnew] at hbefore
        cases hbefore
    · rw [runnable_outputMode] at hmode
      cases hmode
  · rintro ⟨found, mode, content, hfound, hfile, hmode⟩
    obtain ⟨hnul, hlocate⟩ := guarded_eq_ok.1 hfound
    obtain ⟨content', hafter, -⟩ := h.file hfile
    exact ⟨found, mode, content', guarded_eq_ok.2 ⟨hnul, h.locate_ok hlocate⟩, hafter, hmode⟩

end Grown

end FileSystem

open FileSystem

variable {here : NodeId} {written : List NodeId} {before after : FileSystem} {start : Location}

/-- **Lookup.** The program of a name stays, whatever files are made and written. -/
theorem Lookup.find_of_grown (h : Grown here written before after) {searchPath : Bytes}
    {directory name program : Path}
    (hfind : find before start searchPath directory name = some program) :
    find after start searchPath directory name = some program := by
  have hat : ∀ path, findAt before start path = some program →
      findAt after start path = some program := by
    intro path hpath
    unfold findAt at hpath ⊢
    split_ifs at hpath with hregular
    rw [if_pos (h.isRegular hregular), hpath]
  have hon : ∀ text, findOnPath after start searchPath directory text
      = findOnPath before start searchPath directory text := by
    intro text
    unfold findOnPath
    simp only [h.runs]
  unfold find at hfind ⊢
  split at hfind
  · cases hfind
  · split_ifs at hfind ⊢
    · exact hat _ hfind
    · rw [hon, hfind]
  · exact hat _ hfind

/-- **Loading.** A program that could be loaded while the written files were open for writing is
    loaded still, whichever of these and of the new files are open. -/
theorem Execution.load_of_grown (h : Grown here written before after) {programs : Programs}
    {busy busy' : List NodeId} (hwritten : ∀ id ∈ written, id ∈ busy)
    (hbusy : ∀ id ∈ busy', id ∈ busy ∨ before.node? id = none) {interpreters : Nat}
    {arguments : List Bytes} {path : Path} {loaded : Program × List Bytes}
    (hload : load programs before start busy arguments interpreters path = .ok loaded) :
    load programs after start busy' arguments interpreters path = .ok loaded := by
  induction interpreters generalizing arguments path with
  | zero => cases hload
  | succ interpreters ih =>
    rw [load] at hload ⊢
    rcases hlocate : before.locate start path with reason | found
    · rw [hlocate] at hload
      cases hload
    · rw [hlocate] at hload
      rw [h.locate_ok hlocate]
      simp only [bind, Except.bind] at hload ⊢
      rcases hnode : before.node? found.node with _ | ⟨mode, content⟩ | _ | _ | _ | _
      case some.file =>
        rw [hnode] at hload
        simp only at hload
        split_ifs at hload with hmode hopen
        have hnot : found.node ∉ busy := by simpa using hopen
        obtain ⟨content', hafter, hsame⟩ := h.file hnode
        obtain rfl := hsame fun hin => hnot (hwritten _ hin)
        have hnot' : ¬ busy'.contains found.node = true := by
          intro hin
          rcases hbusy _ (List.contains_iff_mem.1 hin) with hin | hnew
          · exact hnot hin
          · rw [hnew] at hnode
            cases hnode
        rw [hafter]
        simp only [if_neg hmode, if_neg hnot']
        split at hload
        · cases hload
        · exact ih hload
        · exact hload
      all_goals
        rw [hnode] at hload
        cases hload

end CommandShell
