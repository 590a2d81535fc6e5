import CommandShell.Proofs.FoundPrograms

namespace CommandShell

/-!
# CommandNames — the program that the name of a command stands for

A name of one part is looked up along the search path, and any other is a path of its own. What
counts are the components of the name, not its bytes: separators and dots after a name of one part
say nothing, so such a name is still looked up along the search path.

* `Path.components_of_segments` — the components of a name, from its parts;
* `Lookup.find_of_segments` — hence which of the two a name is;
* `FileSystem.IsProgram` — what a search along the path looks for;
* `Lookup.find_along_path` — a name without separators stands for the first program on the path;
* `Path.IsTrailed` — a name of one part with separators and dots after it;
* `Lookup.find_of_separator` — every other name with a separator is a path read from the session's
  directory.
-/

namespace Path

variable {p : Path} {first : Bytes} {others : List Bytes}

/-- A path whose first part is not empty does not start at the root. -/
theorem isAbsolute_of_segments (h : p.segments = first :: others) (hfirst : first ≠ []) :
    p.isAbsolute = false := by
  obtain ⟨_ | ⟨b, rest⟩⟩ := p
  · rfl
  · have hb : b ≠ separator := by
      rintro rfl
      have hsplit : segments ⟨separator :: rest⟩ = [] :: Bytes.splitOn separator rest :=
        Bytes.splitOn_append_cons [] rest
      rw [hsplit] at h
      exact hfirst (List.cons.inj h).1.symm
    simpa [isAbsolute] using hb

/-- A part that is not empty says something at the front of a path, and its text is what it says;
    after that, blank parts say nothing. -/
theorem components_of_segments (h : p.segments = first :: others) (hfirst : first ≠ []) :
    ∃ component : Component, component.text = first ∧
      p.components = component :: others.filterMap Component.ofSegment? := by
  have hrelative := isAbsolute_of_segments h hfirst
  obtain ⟨_ | ⟨b, rest⟩⟩ := p
  · -- Nothing but an empty part is in the empty path.
    exact absurd (List.cons.inj h).1.symm hfirst
  · have hb : b ≠ separator := by simpa [isAbsolute] using hrelative
    unfold components parts
    simp only [if_neg hb, h]
    by_cases hhere : first = here
    · rw [if_pos hhere]
      exact ⟨.current, hhere.symm, rfl⟩
    · have hblank : ¬ isBlank first = true := by simp [isBlank, hfirst, hhere]
      rw [if_neg hhere]
      by_cases habove : first = above
      · refine ⟨.parent, habove.symm, ?_⟩
        simp [Start.components, Component.ofSegment?, if_neg hblank, if_pos habove]
      · refine ⟨.normal first, rfl, ?_⟩
        simp [Start.components, Component.ofSegment?, if_neg hblank, if_neg habove]

/-- Parts that all say nothing are the blank ones. -/
theorem filterMap_ofSegment?_eq_nil_iff :
    others.filterMap Component.ofSegment? = [] ↔ ∀ segment ∈ others, isBlank segment = true := by
  rw [List.filterMap_eq_nil_iff]
  refine forall₂_congr fun segment _ => ?_
  unfold Component.ofSegment?
  split_ifs with hblank <;> simp [hblank]

/-- A path from the root says so first. -/
theorem components_of_isAbsolute (h : p.isAbsolute = true) :
    ∃ rest, p.components = .root :: rest := by
  obtain ⟨_ | ⟨b, rest⟩⟩ := p
  · cases h
  · have hb : b = separator := by simpa [isAbsolute] using h
    unfold components parts
    simp only [if_pos hb]
    exact ⟨_, rfl⟩

/-- The empty path stands for the directory it is read from. -/
theorem join_empty_join (directory : Path) {name : Bytes} (h : isAbsolute ⟨name⟩ = false) :
    (directory.join ⟨[]⟩).join ⟨name⟩ = directory.join ⟨name⟩ := by
  have hempty : ¬ isAbsolute ⟨[]⟩ = true := by decide
  have hname : ¬ isAbsolute ⟨name⟩ = true := by simp [h]
  unfold join
  rw [if_neg hempty, if_neg hname, if_neg hname]
  split_ifs <;> simp_all

end Path

namespace Lookup

variable {fs : FileSystem} {start : Location} {searchPath : Bytes} {directory name : Path}
  {first : Bytes} {others : List Bytes}

/-- A name from the root is a path of its own. -/
theorem find_of_isAbsolute (h : name.isAbsolute = true) :
    find fs start searchPath directory name = findAt fs start (directory.join name) := by
  obtain ⟨rest, hcomponents⟩ := Path.components_of_isAbsolute h
  unfold find
  rw [hcomponents]
  rcases rest with _ | ⟨component, rest⟩
  · simp only [if_pos h]
  · rfl

/-- Any other name is looked up along the search path if only blank parts follow its first, and is a
    path of its own if not. -/
theorem find_of_segments (h : name.segments = first :: others) (hfirst : first ≠ []) :
    find fs start searchPath directory name =
      if ∀ segment ∈ others, Path.isBlank segment = true then
        findOnPath fs start searchPath directory first
      else findAt fs start (directory.join name) := by
  have hrelative : ¬ name.isAbsolute = true := by
    simp [Path.isAbsolute_of_segments h hfirst]
  obtain ⟨component, rfl, hcomponents⟩ := Path.components_of_segments h hfirst
  unfold find
  rw [hcomponents]
  split_ifs with hblank
  · rw [Path.filterMap_ofSegment?_eq_nil_iff.2 hblank]
  · rw [← Path.filterMap_ofSegment?_eq_nil_iff] at hblank
    obtain ⟨second, rest, hrest⟩ := List.exists_cons_of_ne_nil hblank
    rw [hrest]

end Lookup

/-! ### Names without separators -/

/-- A path leads, links followed, to a regular file that may be run. -/
def FileSystem.IsProgram (fs : FileSystem) (start : Location) (path : Path) : Prop :=
  ∃ found mode content, guarded path (fs.locate start path) = .ok found ∧
    fs.node? found.node = some (.file mode content) ∧ runnable mode = true

/-- The first of some paths that leads to a program. -/
def FileSystem.IsFirstProgram (fs : FileSystem) (start : Location) (paths : List Path)
    (program : Path) : Prop :=
  ∃ i : Nat, paths[i]? = some program ∧ fs.IsProgram start program ∧
    ∀ j < i, ∀ path, paths[j]? = some path → ¬ fs.IsProgram start path

namespace Lookup

variable {fs : FileSystem} {start : Location} {searchPath : Bytes} {directory : Path}
  {name : Bytes} {program : Path}

theorem findOnPath_eq_some_iff :
    findOnPath fs start searchPath directory name = some program ↔
      fs.IsFirstProgram start (candidates searchPath directory name) program := by
  unfold findOnPath FileSystem.IsFirstProgram FileSystem.IsProgram
  simp only [← FileSystem.runs_iff]
  rw [List.find?_eq_some_iff_getElem]
  constructor
  · rintro ⟨hruns, i, hi, hprogram, hbefore⟩
    refine ⟨i, List.getElem?_eq_some_iff.2 ⟨hi, hprogram⟩, hruns, fun j hj path hpath => ?_⟩
    obtain ⟨hlength, rfl⟩ := List.getElem?_eq_some_iff.1 hpath
    have hnot := hbefore j hj
    rw [Bool.not_eq_true'] at hnot
    exact Bool.eq_false_iff.1 hnot
  · rintro ⟨i, hprogram, hruns, hbefore⟩
    obtain ⟨hi, hat⟩ := List.getElem?_eq_some_iff.1 hprogram
    refine ⟨hruns, i, hi, hat, fun j hj => ?_⟩
    have hnot := hbefore j hj _ (List.getElem?_eq_getElem (Nat.lt_trans hj hi))
    rw [Bool.eq_false_iff.2 hnot, Bool.not_false]

theorem findOnPath_eq_none_iff :
    findOnPath fs start searchPath directory name = none ↔
      ∀ path ∈ candidates searchPath directory name, ¬ fs.IsProgram start path := by
  unfold findOnPath FileSystem.IsProgram
  simp only [← FileSystem.runs_iff]
  rw [List.find?_eq_none]

/-- The directories before a separator are searched first. -/
theorem findOnPath_append (p q : Bytes) :
    findOnPath fs start (p ++ searchSeparator :: q) directory name
      = (findOnPath fs start p directory name).or (findOnPath fs start q directory name) := by
  unfold findOnPath candidates directories
  rw [Bytes.splitOn_append_cons, List.map_append, List.map_append, List.find?_append]

theorem find_of_one_part (hname : name ≠ []) (hone : Path.separator ∉ name) :
    find fs start searchPath directory ⟨name⟩ = findOnPath fs start searchPath directory name := by
  rw [find_of_segments (Path.segments_of_not_mem hone) hname, if_pos (by simp)]

/-- **Search.** A name without separators stands for the first program among its candidates, one in
each directory of the search path:

* it is found where there is one before which no other is a program, and not found if none is;
* the directories before a separator are searched first, and then those after it;
* an entry that starts at the root stands for itself, an empty one for the session's directory, and
  without a search path there is that one only. -/
theorem find_along_path (hname : name ≠ []) (hone : Path.separator ∉ name) (fs : FileSystem)
    (start : Location) (directory : Path) :
    (∀ searchPath program, find fs start searchPath directory ⟨name⟩ = some program ↔
      fs.IsFirstProgram start (candidates searchPath directory name) program) ∧
    (∀ searchPath, find fs start searchPath directory ⟨name⟩ = none ↔
      ∀ path ∈ candidates searchPath directory name, ¬ fs.IsProgram start path) ∧
    (∀ p q, find fs start (p ++ searchSeparator :: q) directory ⟨name⟩
      = (find fs start p directory ⟨name⟩).or (find fs start q directory ⟨name⟩)) ∧
    (∀ entry : Path, entry.isAbsolute = true →
      (directory.join entry).join ⟨name⟩ = entry.join ⟨name⟩) ∧
    (directory.join ⟨[]⟩).join ⟨name⟩ = directory.join ⟨name⟩ ∧
    candidates [] directory name = [directory.join ⟨name⟩] ∧
    ∀ vars : Variables, Variables.get? vars "PATH" = none →
      find fs start (searchPathOf vars) directory ⟨name⟩
        = find fs start [] directory ⟨name⟩ := by
  have hfind : ∀ searchPath, find fs start searchPath directory ⟨name⟩
      = findOnPath fs start searchPath directory name := fun _ => find_of_one_part hname hone
  have hempty := Path.join_empty_join directory (Path.isAbsolute_of_not_mem hone)
  refine ⟨fun searchPath program => ?_, fun searchPath => ?_, fun p q => ?_, fun entry h => ?_,
    hempty, ?_, fun vars hunset => ?_⟩
  · rw [hfind, findOnPath_eq_some_iff]
  · rw [hfind, findOnPath_eq_none_iff]
  · rw [hfind, hfind, hfind, findOnPath_append]
  · have hjoin : directory.join entry = entry := by rw [Path.join, if_pos h]
    rw [hjoin]
  · -- There is one piece between no separators, and it is empty.
    show [(directory.join ⟨[]⟩).join ⟨name⟩] = _
    rw [hempty]
  · rw [searchPathOf, hunset, Option.getD_none]

end Lookup

namespace Sample

/-- In the root directory there is no file `tool`. -/
theorem isRegular_tool : toolbox.isRegular .root (Path.ofString "/tool") = false := by
  have hroot : toolbox.IsDirectoryAt .root Path.root .root [(Bytes.ofString "sub", 1)] :=
    ⟨by decide, FileSystem.Straight.root.canonicalize rfl (by decide) (by decide) .root, rfl⟩
  have hname : Path.root.IsPlainIn (Bytes.ofString "tool") := by
    constructor <;> decide
  exact FileSystem.isRegular_vacant hroot hname (by decide)

/-- In `sub` there is one, and it may be run. -/
theorem runs_tool : (toolbox.isRegular .root (Path.ofString "/sub/tool") &&
    toolbox.isExecutable .root (Path.ofString "/sub/tool")) = true := by
  have hsub : toolbox.Straight shed :=
    .child .root rfl rfl rfl (by decide) (by decide) (by decide) (fun _ h => by cases h)
  have htool : toolbox.Straight (shed.child (Bytes.ofString "tool") 2) :=
    .child hsub rfl rfl rfl (by decide) (by decide) (by decide) (fun _ h => by cases h)
  exact FileSystem.runs_iff.2 ⟨_, _, _,
    FileSystem.guarded_eq_ok.2 ⟨by decide, htool.locate rfl (by decide) .root⟩, rfl, by decide⟩

/-- So a search finds it behind the root directory. -/
theorem tool_on_path :
    Bytes.ofString "tool" ≠ [] ∧ Path.separator ∉ Bytes.ofString "tool" ∧
    toolbox.IsFirstProgram .root
      (Lookup.candidates (Bytes.ofString ":sub:/sub") .root (Bytes.ofString "tool"))
      (Path.ofString "/sub/tool") := by
  have hname : Bytes.ofString "tool" ≠ [] := by decide
  have hone : Path.separator ∉ Bytes.ofString "tool" := by decide
  have hcandidates :
      Lookup.candidates (Bytes.ofString ":sub:/sub") .root (Bytes.ofString "tool")
        = [Path.ofString "/tool", Path.ofString "/sub/tool", Path.ofString "/sub/tool"] := by
    decide +kernel
  have hfound : Lookup.find toolbox .root (Bytes.ofString ":sub:/sub") .root ⟨Bytes.ofString "tool"⟩
      = some (Path.ofString "/sub/tool") := by
    rw [Lookup.find_of_one_part hname hone, Lookup.findOnPath, hcandidates,
      List.find?_cons_of_neg (by simp [isRegular_tool])]
    exact List.find?_cons_of_pos runs_tool
  exact ⟨hname, hone,
    ((Lookup.find_along_path hname hone toolbox .root .root).1 _ _).1 hfound⟩

end Sample

/-! ### Names with separators -/

/-- A blank part at the end of a path is walked only in a directory. -/
theorem FileSystem.isRegular_of_blank_end {path : Path} {front : List Bytes} {last : Bytes}
    (h : path.segments = front ++ [last]) (hlast : Path.isBlank last = true) (fs : FileSystem)
    (start : Location) : fs.isRegular start path = false := by
  refine Bool.eq_false_iff.2 fun hregular => ?_
  obtain ⟨found, mode, content, hlocate, hfile⟩ := exists_file_of_isRegular hregular
  obtain ⟨-, hwalk⟩ := locate_eq_ok.1 hlocate
  obtain ⟨links, happend⟩ := fs.walk_append linkLimit (startOf start path) front
  rw [h, happend] at hwalk
  rcases hfront : fs.walk linkLimit (startOf start path) front with reason | middle
  · rw [hfront] at hwalk
    cases hwalk
  · rw [hfront] at hwalk
    have hend : fs.walk links middle [last] = .ok found := hwalk
    obtain ⟨entries, hentries⟩ := walk_cons_eq_ok hend
    rw [walk_blank hentries hlast, walk_nil] at hend
    cases hend
    rw [entries?, hfile] at hentries
    cases hentries

namespace Path

/-- Whether a path is one name with separators after it, and nothing between them but dots. -/
structure IsTrailed (p : Path) (name : Bytes) : Prop where
  /-- The name says something. -/
  not_blank : isBlank name = false
  /-- It is the first part, there are others, and these say nothing. -/
  trailed : ∃ blanks, p.segments = name :: blanks ∧ blanks ≠ [] ∧
    ∀ segment ∈ blanks, isBlank segment = true

/-- A path with a separator has more than one part, and only at the root is the first one empty. -/
theorem exists_segments {p : Path} (h : separator ∈ p.bytes) :
    ∃ first others, p.segments = first :: others ∧ others ≠ [] ∧
      (first = [] → p.isAbsolute = true) := by
  obtain ⟨first, others, hsegments⟩ :=
    List.exists_cons_of_ne_nil (Bytes.splitOn_ne_nil separator p.bytes)
  have hbytes : [separator].intercalate (first :: others) = p.bytes := by
    rw [← hsegments]
    exact Bytes.joinWith_splitOn separator p.bytes
  have hothers : others ≠ [] := by
    rintro rfl
    have hfirst : separator ∉ first :=
      Bytes.not_mem_of_mem_splitOn (hsegments ▸ List.mem_singleton_self first)
    rw [List.intercalate_singleton] at hbytes
    exact hfirst (hbytes ▸ h)
  refine ⟨first, others, hsegments, hothers, ?_⟩
  rintro rfl
  rw [List.intercalate_cons_of_ne_nil hothers] at hbytes
  simp [isAbsolute, ← hbytes]

end Path

namespace Lookup

variable {fs : FileSystem} {start : Location} {searchPath : Bytes} {directory name : Path}
  {first : Bytes} {others : List Bytes}

/-- A name with nothing but blank parts after its first leads to no regular file. -/
theorem isRegular_of_blank_others (h : name.isAbsolute = false)
    (hsegments : name.segments = first :: others) (hothers : others ≠ [])
    (hblank : ∀ segment ∈ others, Path.isBlank segment = true) :
    fs.isRegular start (directory.join name) = false := by
  obtain ⟨front, hjoin, -⟩ := Path.segments_join directory h
  have hend : (directory.join name).segments
      = (front ++ first :: others.dropLast) ++ [others.getLast hothers] := by
    rw [hjoin, hsegments, List.append_assoc, List.cons_append, List.dropLast_append_getLast]
  exact FileSystem.isRegular_of_blank_end hend (hblank _ (List.getLast_mem hothers)) fs start

/-- Nor does a dot in a directory, so no search finds one. -/
theorem findOnPath_here : findOnPath fs start searchPath directory Path.here = none := by
  rw [findOnPath_eq_none_iff]
  intro path hpath hprogram
  obtain ⟨entry, -, rfl⟩ := List.mem_map.1 hpath
  obtain ⟨front, hjoin, -⟩ := Path.segments_join (directory.join entry)
    (show Path.isAbsolute ⟨Path.here⟩ = false by decide)
  have hdot : Path.segments ⟨Path.here⟩ = [Path.here] := Path.segments_of_not_mem (by decide)
  rw [hdot] at hjoin
  have hregular := FileSystem.isRegular_of_blank_end hjoin (by decide) fs start
  obtain ⟨found, mode, content, hlocate, hfile, -⟩ := hprogram
  rw [FileSystem.isRegular_iff.2 ⟨found, mode, content, hlocate, hfile⟩] at hregular
  cases hregular

/-- **Names with separators.** The search path makes no difference to a name with a separator, and
its program is the regular file that it leads to from the session's directory, unless it is one part
with nothing after it but separators and dots. Such a name leads to no regular file, and stands for
what its part stands for along the search path. -/
theorem find_of_separator (h : Path.separator ∈ name.bytes) (fs : FileSystem) (start : Location)
    (directory : Path) :
    ((∀ part, ¬ name.IsTrailed part) → ∀ searchPath,
      find fs start searchPath directory name =
        if fs.isRegular start (directory.join name) then some (directory.join name) else none) ∧
    ∀ part, name.IsTrailed part →
      fs.isRegular start (directory.join name) = false ∧
      ∀ searchPath, find fs start searchPath directory name
        = find fs start searchPath directory ⟨part⟩ := by
  obtain ⟨first, others, hsegments, hothers, hroot⟩ := Path.exists_segments h
  constructor
  · intro huntrailed searchPath
    by_cases habsolute : name.isAbsolute = true
    · exact find_of_isAbsolute habsolute
    · have hrelative : name.isAbsolute = false := Bool.eq_false_iff.2 habsolute
      have hfirst : first ≠ [] := fun hnil => habsolute (hroot hnil)
      rw [find_of_segments hsegments hfirst]
      by_cases hblank : ∀ segment ∈ others, Path.isBlank segment = true
      · -- The part can only be a dot, and neither way finds a file.
        have hdot : first = Path.here := by
          by_contra hother
          have hpart : Path.isBlank first = false := by simp [Path.isBlank, hfirst, hother]
          exact huntrailed first ⟨hpart, others, hsegments, hothers, hblank⟩
        rw [if_pos hblank, hdot, findOnPath_here,
          isRegular_of_blank_others hrelative hsegments hothers hblank]
        rfl
      · rw [if_neg hblank]
        rfl
  · rintro part ⟨hpart, blanks, hname, hblanks, hblank⟩
    have hfull : part ≠ [] := by
      rintro rfl
      cases hpart
    have hone : Path.separator ∉ part :=
      Bytes.not_mem_of_mem_splitOn (hname ▸ List.mem_cons_self)
    refine ⟨isRegular_of_blank_others (Path.isAbsolute_of_segments hname hfull) hname hblanks
      hblank, fun searchPath => ?_⟩
    rw [find_of_segments hname hfull, if_pos hblank, find_of_one_part hfull hone]

end Lookup

namespace Sample

/-- Whatever the search path is, this name is a path to the program in `sub`. -/
theorem tool_by_path :
    Path.separator ∈ (Path.ofString "sub//./tool").bytes ∧ ∀ searchPath,
      Lookup.find toolbox .root searchPath .root (Path.ofString "sub//./tool")
        = some (Path.ofString "/sub//./tool") := by
  have hname : Path.separator ∈ (Path.ofString "sub//./tool").bytes := by decide
  have huntrailed : ∀ part, ¬ (Path.ofString "sub//./tool").IsTrailed part := by
    rintro part ⟨-, blanks, hsegments, -, hblank⟩
    have hparts : (Path.ofString "sub//./tool").segments
        = [Bytes.ofString "sub", [], Path.here, Bytes.ofString "tool"] := by decide +kernel
    obtain ⟨-, rfl⟩ := List.cons.inj (hparts.symm.trans hsegments)
    exact absurd (hblank (Bytes.ofString "tool") (by simp)) (by decide)
  have hregular :
      toolbox.isRegular .root (Path.root.join (Path.ofString "sub//./tool")) = true := by
    have hsegments : (Path.root.join (Path.ofString "sub//./tool")).segments
        = [[], Bytes.ofString "sub", [], Path.here, Bytes.ofString "tool"] := by decide +kernel
    have hwalk : toolbox.walk FileSystem.linkLimit .root
        [[], Bytes.ofString "sub", [], Path.here, Bytes.ofString "tool"]
          = .ok (shed.child (Bytes.ofString "tool") 2) := by
      rw [FileSystem.walk_blank rfl rfl, walk_shed, FileSystem.walk_blank rfl rfl,
        FileSystem.walk_blank rfl rfl, walk_tool]
    exact FileSystem.isRegular_iff.2 ⟨_, _, _, FileSystem.guarded_eq_ok.2 ⟨by decide,
      FileSystem.locate_eq_ok.2 ⟨by decide, hsegments ▸ hwalk⟩⟩, rfl⟩
  refine ⟨hname, fun searchPath => ?_⟩
  rw [(Lookup.find_of_separator hname toolbox .root .root).1 huntrailed searchPath, hregular]
  rfl

/-- A separator after its name does not keep the program from being looked up along the search
    path, and found there, although the name leads to no regular file. -/
theorem trailed_tool :
    Path.separator ∈ (Path.ofString "tool/").bytes ∧
    toolbox.isRegular .root (Path.root.join (Path.ofString "tool/")) = false ∧
    Lookup.find toolbox .root (Bytes.ofString "sub") .root (Path.ofString "tool/")
      = some (Path.ofString "/sub/tool") ∧
    Lookup.find toolbox .root [] .root (Path.ofString "tool/") = none := by
  have hsegments : (Path.ofString "tool/").segments = [Bytes.ofString "tool", []] := by
    decide +kernel
  have hblank : ∀ segment ∈ ([[]] : List Bytes), Path.isBlank segment = true := by decide
  have hfind : ∀ searchPath, Lookup.find toolbox .root searchPath .root (Path.ofString "tool/")
      = Lookup.findOnPath toolbox .root searchPath .root (Bytes.ofString "tool") := by
    intro searchPath
    rw [Lookup.find_of_segments hsegments (by decide), if_pos hblank]
  have hsub : Lookup.candidates (Bytes.ofString "sub") .root (Bytes.ofString "tool")
      = [Path.ofString "/sub/tool"] := by decide +kernel
  have hempty : Lookup.candidates [] .root (Bytes.ofString "tool") = [Path.ofString "/tool"] := by
    decide +kernel
  refine ⟨by decide, Lookup.isRegular_of_blank_others (by decide) hsegments (by decide) hblank,
    ?_, ?_⟩
  · rw [hfind, Lookup.findOnPath, hsub]
    exact List.find?_cons_of_pos runs_tool
  · rw [hfind, Lookup.findOnPath, hempty, List.find?_cons_of_neg (by simp [isRegular_tool]),
      List.find?_nil]

end Sample

end CommandShell
