import CommandShell.Prompt
import CommandShell.Proofs.EncodedTexts
import CommandShell.Proofs.PathPrefixes

namespace CommandShell

/-!
# ShownDirectory — what the prompt says of a directory

A directory in the home directory is shown by a tilde and what is left of its path, and any other as
it is:

* `Prompt.Abbreviates` — the rule, for a home directory of any kind;
* `Prompt.render_abbreviates` — the prompt follows it, unless the home directory is an empty path:
  every directory is below that, though no relative path leads from it to an absolute one;
* `Path.IsCanonical` — an absolute path with nothing to leave out, as `cd` finds them
  (`FileSystem.isCanonical_of_canonicalize`);
* `Prompt.render_injective` — different directories of that kind never have the same prompt.
-/

/-! ### Texts of paths -/

namespace Path

variable {p q : Path}

/-- What is shown for an absolute path begins with the separator. -/
theorem toList_display_of_isAbsolute (h : p.isAbsolute = true) :
    ∃ cs, p.display.toList = '/' :: cs := by
  obtain ⟨_ | ⟨b, bytes⟩⟩ := p
  · cases h
  · obtain rfl : b = separator := by simpa [isAbsolute] using h
    have hfirst := Utf8.decodeLossy_append_cons (b := separator) (by decide) [] bytes
    have hnothing : Utf8.decodeLossy [] = [] := by simp [Utf8.decodeLossy]
    rw [hnothing, List.nil_append, List.nil_append] at hfirst
    refine ⟨Utf8.decodeLossy bytes, ?_⟩
    rw [display, Bytes.toStringLossy, String.toList_ofList]
    exact hfirst

end Path

/-! ### The directory that is shown -/

namespace Prompt

variable {user : Option String} {home : Option Path} {base rest directory : Path} {shown : String}

/-- What is shown of a directory is its place in the home directory, or else all of it. -/
structure Abbreviates (home : Option Path) (directory : Path) (shown : String) : Prop where
  /-- A tilde alone is shown exactly for the home directory itself. -/
  home_iff : shown = "~" ↔ ∃ base, home = some base ∧ base.components = directory.components
  /-- A tilde and more is shown exactly for the directories strictly below. -/
  below_iff : (∃ text, shown = "~/" ++ text) ↔
    ∃ base rest, home = some base ∧ Path.IsBelow rest base directory
  /-- What is shown then leads from the home directory to the directory. -/
  below : ∀ text, shown = "~/" ++ text →
    ∃ base rest, home = some base ∧ Path.IsBelow rest base directory ∧ text = rest.display
  /-- Any other directory is shown as it is. -/
  elsewhere : (¬ ∃ base, home = some base ∧ base.components = directory.components) →
    (¬ ∃ base rest, home = some base ∧ Path.IsBelow rest base directory) →
    shown = directory.display

/-- What begins with a tilde is no absolute path. -/
theorem display_ne_tilde (h : directory.isAbsolute = true) (text : String) :
    directory.display ≠ "~" ++ text := by
  obtain ⟨cs, hcs⟩ := Path.toList_display_of_isAbsolute h
  intro heq
  rw [heq, String.toList_append] at hcs
  exact absurd (List.cons.inj hcs).1 (by decide)

/-- What goes on after a tilde and a separator is no absolute path either. -/
theorem display_ne_below (h : directory.isAbsolute = true) (text : String) :
    directory.display ≠ "~/" ++ text := by
  have hne := display_ne_tilde h ("/" ++ text)
  rwa [← String.append_assoc] at hne

theorem tilde_ne_below (text : String) : "~" ≠ "~/" ++ text := by
  intro h
  have hlength := congrArg (fun s : String => s.toList.length) h
  simp at hlength

namespace Abbreviates

theorem of_elsewhere (h : directory.isAbsolute = true)
    (hhome : ¬ ∃ base, home = some base ∧ base.components = directory.components)
    (hbelow : ¬ ∃ base rest, home = some base ∧ Path.IsBelow rest base directory) :
    Abbreviates home directory directory.display where
  home_iff := iff_of_false (display_ne_tilde h "") hhome
  below_iff := iff_of_false (fun ⟨text, htext⟩ => display_ne_below h text htext) hbelow
  below := fun text htext => absurd htext (display_ne_below h text)
  elsewhere := fun _ _ => rfl

theorem of_home (h : base.components = directory.components) :
    Abbreviates (some base) directory "~" where
  home_iff := iff_of_true rfl ⟨base, rfl, h⟩
  below_iff := by
    refine iff_of_false (fun ⟨text, htext⟩ => tilde_ne_below text htext) ?_
    rintro ⟨base', rest, ⟨⟩, hbelow⟩
    exact hbelow.strict h
  below := fun text htext => absurd htext (tilde_ne_below text)
  elsewhere := fun hhome _ => absurd ⟨base, rfl, h⟩ hhome

theorem of_isBelow (h : rest.IsBelow base directory) :
    Abbreviates (some base) directory ("~/" ++ rest.display) where
  home_iff := by
    refine iff_of_false (tilde_ne_below rest.display).symm ?_
    rintro ⟨base', ⟨⟩, hsame⟩
    exact h.strict hsame
  below_iff := iff_of_true ⟨_, rfl⟩ ⟨base, rest, rfl, h⟩
  below := fun text htext => ⟨base, rest, rfl, h, (String.append_right_inj _).1 htext.symm⟩
  elsewhere := fun _ hbelow => absurd ⟨base, rest, rfl, h⟩ hbelow

end Abbreviates

/-- What is shown follows the rule, unless the home directory is the empty path. -/
theorem shownDirectory_abbreviates (h : directory.isAbsolute = true) (hhome : home ≠ some ⟨[]⟩) :
    Abbreviates home directory (shownDirectory home directory) := by
  rcases home with _ | base
  · exact .of_elsewhere h (by simp) (by simp)
  have hbase : base.bytes ≠ [] := fun hnil => hhome (by rw [← hnil])
  unfold shownDirectory
  rw [Option.bind_some]
  rcases hrest : directory.stripPrefix? base with _ | rest
  · rw [Path.stripPrefix?_eq_none_iff] at hrest
    refine .of_elsewhere h ?_ ?_
    · rintro ⟨base', ⟨⟩, hsame⟩
      exact hrest (hsame ▸ List.prefix_refl _)
    · rintro ⟨base', rest, ⟨⟩, hbelow⟩
      exact hrest (hbelow.base_starts h).2
  · -- What is left is relative, as nothing but the empty home directory leaves a whole path.
    rcases Path.stripPrefix?_isBelow h hbase hrest with ⟨hnil, hsame⟩ | hbelow
    · simp only [hnil, List.isEmpty_nil, if_true]
      exact .of_home hsame
    · simp only [List.isEmpty_iff, if_neg hbelow.not_empty]
      exact .of_isBelow hbelow

/-- The rule asks for a relative path, and none leads from the empty path to an absolute one. -/
theorem not_abbreviates_of_empty (h : directory.isAbsolute = true) (text : String) :
    ¬ Abbreviates (some ⟨[]⟩) directory ("~/" ++ text) := by
  intro habbreviates
  obtain ⟨base, rest, ⟨⟩, hbelow⟩ := habbreviates.below_iff.1 ⟨text, rfl⟩
  exact absurd (hbelow.base_starts h).1 (by decide)

/-- Prompts of one user are the same only if the same is shown for the directory. -/
theorem framed_inj {who shown shown' : String} :
    who ++ "@" ++ shown ++ "$ " = who ++ "@" ++ shown' ++ "$ " ↔ shown = shown' := by
  rw [String.append_left_inj, String.append_right_inj]

/-- **The prompt** shows who, an at sign, what stands for the directory, a dollar sign and a space.

* For a home directory of any kind but the empty path, what stands for an absolute directory follows
  the rule: a tilde for the home directory itself, a tilde and a relative path from there for what
  lies below, and the whole path for all else.
* If the home directory is the empty path, every absolute directory is shown as if it lay below, by
  a path that is absolute itself. The rule is broken then, whatever the directory is. -/
theorem render_abbreviates (user : Option String) (home : Option Path) (directory : Path)
    (h : directory.isAbsolute = true) :
    (home ≠ some ⟨[]⟩ → ∃ shown,
      render user home directory = user.getD "" ++ "@" ++ shown ++ "$ " ∧
        Abbreviates home directory shown) ∧
    (home = some ⟨[]⟩ → ∃ rest : Path,
      render user home directory = user.getD "" ++ "@" ++ ("~/" ++ rest.display) ++ "$ " ∧
        rest.isAbsolute = true ∧ rest.components = directory.components ∧
        ¬ Abbreviates home directory ("~/" ++ rest.display)) := by
  refine ⟨fun hhome => ⟨_, rfl, shownDirectory_abbreviates h hhome⟩, ?_⟩
  rintro rfl
  obtain ⟨rest, hrest, habsolute, hcomponents⟩ := Path.stripPrefix?_empty h
  refine ⟨rest, ?_, habsolute, hcomponents, not_abbreviates_of_empty h rest.display⟩
  have hne : rest.bytes ≠ [] := by
    intro hnil
    rw [Path.isAbsolute, hnil] at habsolute
    cases habsolute
  have hshown : shownDirectory (some ⟨[]⟩) directory = "~/" ++ rest.display := by
    unfold shownDirectory
    simp only [Option.bind_some, hrest, List.isEmpty_iff, if_neg hne]
  rw [render, hshown]

end Prompt

namespace Sample

/-- A directory below a home directory that is written with separators to spare. -/
theorem below_home :
    (Path.ofString "/home/x/src").isAbsolute = true ∧
    ∃ shown, Prompt.render (some "x") (some (Path.ofString "/home//x/"))
        (Path.ofString "/home/x/src") = "x" ++ "@" ++ shown ++ "$ " ∧
      Prompt.Abbreviates (some (Path.ofString "/home//x/")) (Path.ofString "/home/x/src") shown := by
  have habsolute : (Path.ofString "/home/x/src").isAbsolute = true := by decide
  exact ⟨habsolute, (Prompt.render_abbreviates (some "x") (some (Path.ofString "/home//x/"))
    (Path.ofString "/home/x/src") habsolute).1 (by decide)⟩

/-- With an empty home directory, what stands for a directory does not follow the rule. -/
theorem below_nothing :
    Prompt.render (some "x") (some ⟨[]⟩) (Path.ofString "/tmp") = "x@~//tmp$ " ∧
    ¬ ∃ shown, Prompt.render (some "x") (some ⟨[]⟩) (Path.ofString "/tmp")
        = "x" ++ "@" ++ shown ++ "$ " ∧
      Prompt.Abbreviates (some ⟨[]⟩) (Path.ofString "/tmp") shown := by
  have hrender : Prompt.render (some "x") (some ⟨[]⟩) (Path.ofString "/tmp") = "x@~//tmp$ " := by
    decide +kernel
  refine ⟨hrender, ?_⟩
  rintro ⟨shown, hshown, habbreviates⟩
  have hframed : "x@~//tmp$ " = "x" ++ "@" ++ ("~/" ++ "/tmp") ++ "$ " := by decide
  rw [hrender, hframed] at hshown
  obtain rfl := Prompt.framed_inj.1 hshown
  exact Prompt.not_abbreviates_of_empty (by decide) "/tmp" habbreviates

end Sample

/-! ### Directories told apart -/

namespace Path

variable {p q base : Path} {names names' : List Bytes}

/-- The path is written from names, with nothing to leave out: no repeated or trailing separators,
    no dots and no ways up. -/
def IsWritten (p : Path) (names : List Bytes) : Prop :=
  p.bytes = separator :: Bytes.joinWith separator names ∧
    ∀ name ∈ names, isBlank name = false ∧ name ≠ above ∧ separator ∉ name

/-- An absolute path with nothing to leave out. -/
def IsCanonical (p : Path) : Prop := ∃ names, p.IsWritten names

theorem IsWritten.isAbsolute (h : p.IsWritten names) : p.isAbsolute = true := by
  rw [Path.isAbsolute, h.1]
  rfl

/-- A path without links is one. -/
theorem IsWritten.of_straight {fs : FileSystem} {at' : Location} (h : fs.Straight at') :
    at'.path.IsWritten at'.names := by
  refine ⟨rfl, ?_⟩
  induction h with
  | root => simp
  | child _ _ _ hblank habove _ hone _ ih =>
    intro name hname
    rw [Location.names_child, List.mem_append, List.mem_singleton] at hname
    rcases hname with hname | rfl
    · exact ih name hname
    · exact ⟨hblank, habove, hone⟩

/-- Its parts are the names, and blank ones. -/
theorem IsWritten.segments_cases (h : p.IsWritten names) :
    p.segments = [] :: names ∨ p.segments = [[], []] ∧ names = [] := by
  have hsegments : p.segments = [] :: Bytes.splitOn separator (Bytes.joinWith separator names) := by
    rw [segments, h.1]
    exact Bytes.splitOn_append_cons [] (Bytes.joinWith separator names)
  by_cases hnil : names = []
  · subst hnil
    exact .inr ⟨hsegments, rfl⟩
  · rw [hsegments]
    exact .inl (congrArg _ (segments_joinWith hnil fun name hname => (h.2 name hname).2.2))

/-- Its components are the root and the names. -/
theorem IsWritten.components (h : p.IsWritten names) :
    p.components = .root :: names.map .normal := by
  have hsaid : names.filterMap Component.ofSegment? = names.map .normal := by
    rw [← List.filterMap_eq_map']
    refine List.filterMap_congr fun name hname => ?_
    obtain ⟨hblank, habove, -⟩ := h.2 name hname
    rw [Component.ofSegment?, if_neg (by simp [hblank]), if_neg habove]
  rw [components_of_isAbsolute_eq h.isAbsolute, ← hsaid]
  rcases h.segments_cases with hsegments | ⟨hsegments, rfl⟩
  · rw [hsegments, List.filterMap_cons_none rfl]
  · rw [hsegments]
    rfl

theorem dropParts_of_not_blank (h : ∀ name ∈ names, isBlank name = false) (n : Nat) :
    dropParts n names = names.drop n := by
  induction names generalizing n with
  | nil => cases n <;> rfl
  | cons name names ih =>
    cases n with
    | zero => rw [dropParts, List.drop_zero]
    | succ n =>
      have hname : ¬ isBlank name = true := by simp [h name List.mem_cons_self]
      rw [dropParts, if_neg hname, List.drop_succ_cons,
        ih fun other hother => h other (List.mem_cons_of_mem _ hother)]

theorem dropBlankEnd_of_not_blank (h : ∀ name ∈ names, isBlank name = false) :
    dropBlankEnd names = names :=
  List.rdropWhile_eq_self_iff.2 fun hne => by simp [h _ (List.getLast_mem hne)]

/-- Of parts that all say something, what is left are the last ones. -/
theorem remaining_of_not_blank (h : ∀ name ∈ names, isBlank name = false) (n : Nat) :
    remaining n names = names.drop n := by
  have hleft : ∀ name ∈ names.drop n, isBlank name = false := fun name hname =>
    h name (List.mem_of_mem_drop hname)
  rw [remaining, dropParts_of_not_blank h]
  generalize names.drop n = left at hleft
  have hfront : left.dropWhile isBlank = left :=
    List.dropWhile_eq_self_iff.2 fun hlt => by simp [hleft _ (List.getElem_mem hlt)]
  rw [hfront, dropBlankEnd_of_not_blank hleft]

theorem IsWritten.remaining (h : p.IsWritten names) (n : Nat) :
    Path.remaining n p.segments = names.drop n := by
  have hnames := remaining_of_not_blank (fun name hname => (h.2 name hname).1) n
  rcases h.segments_cases with hsegments | ⟨hsegments, rfl⟩
  · rw [hsegments, remaining_cons_nil, hnames]
  · rw [hsegments, remaining_cons_nil, remaining_cons_nil, hnames]

/-- Names put together, where some come first. -/
theorem separator_joinWith_append (names : List Bytes) (h : names' ≠ []) :
    separator :: Bytes.joinWith separator (names ++ names')
      = names.flatMap (separator :: ·) ++ separator :: Bytes.joinWith separator names' := by
  induction names with
  | nil => rfl
  | cons name names ih =>
    have hne : names ++ names' ≠ [] := by simp [h]
    have hjoin : Bytes.joinWith separator (name :: (names ++ names'))
        = name ++ separator :: Bytes.joinWith separator (names ++ names') := by
      rw [Bytes.joinWith, List.intercalate_cons_of_ne_nil hne]
      simp [Bytes.joinWith]
    rw [List.cons_append, hjoin, ih]
    simp

/-- Paths with the same first names are shown alike if what follows those is. -/
theorem IsWritten.display_eq {front : List Bytes} (hp : p.IsWritten (front ++ names))
    (hq : q.IsWritten (front ++ names')) (hnames : names ≠ []) (hnames' : names' ≠ [])
    (h : display ⟨Bytes.joinWith separator names⟩ = display ⟨Bytes.joinWith separator names'⟩) :
    p.display = q.display := by
  have hlossy : Utf8.decodeLossy (Bytes.joinWith separator names)
      = Utf8.decodeLossy (Bytes.joinWith separator names') := String.ofList_injective h
  have hsep : separator < 0x80 := by decide
  rw [display, display, hp.1, hq.1, separator_joinWith_append front hnames,
    separator_joinWith_append front hnames', Bytes.toStringLossy, Bytes.toStringLossy,
    Utf8.decodeLossy_append_cons hsep, Utf8.decodeLossy_append_cons hsep, hlossy]

/-- Paths that are texts are the same if they are shown alike. -/
theorem eq_of_display_eq (hp : p.bytes.toString?.isSome = true)
    (hq : q.bytes.toString?.isSome = true) (h : p.display = q.display) : p = q := by
  obtain ⟨text, htext⟩ := Option.isSome_iff_exists.1 hp
  obtain ⟨text', htext'⟩ := Option.isSome_iff_exists.1 hq
  obtain ⟨bytes⟩ := p
  obtain ⟨bytes'⟩ := q
  obtain rfl := Bytes.toString?_eq_some_iff.1 htext
  obtain rfl := Bytes.toString?_eq_some_iff.1 htext'
  rw [display, display, Bytes.toStringLossy_ofString, Bytes.toStringLossy_ofString] at h
  rw [h]

/-- Nothing can be left out of such a path but the names of the other. -/
theorem IsWritten.exists_front (h : p.IsWritten names) (hbase : base.bytes ≠ [])
    (hstarts : base.components <+: p.components) :
    ∃ front below, names = front ++ below ∧ base.components = .root :: front.map .normal ∧
      p.stripPrefix? base = some ⟨Bytes.joinWith separator below⟩ := by
  have hstrip := stripPrefix?_of_starts h.isAbsolute hbase hstarts
  rw [h.remaining] at hstrip
  obtain ⟨first, others, hfirst⟩ := List.exists_cons_of_ne_nil (components_ne_nil hbase)
  rw [hfirst, h.components, List.cons_prefix_cons] at hstarts
  obtain ⟨rfl, hothers⟩ := hstarts
  rw [hfirst, List.length_cons, Nat.add_sub_cancel] at hstrip
  refine ⟨names.take others.length, names.drop others.length,
    (List.take_append_drop _ _).symm, ?_, hstrip⟩
  rw [hfirst, List.map_take, ← List.prefix_iff_eq_take.1 hothers]

/-- The empty path is at the front of every path, and nothing is left out for it. -/
theorem IsWritten.stripPrefix?_empty (h : p.IsWritten names) : p.stripPrefix? ⟨[]⟩ = some p := by
  have hstrip : p.stripPrefix? ⟨[]⟩ = some (ofParts p.parts.1 (dropBlankEnd p.parts.2)) := rfl
  have hkept : dropBlankEnd p.parts.2 = names := by
    have hsegments := segments_of_isAbsolute h.isAbsolute
    rcases h.segments_cases with hnames | ⟨hnames, rfl⟩
    · rw [hnames] at hsegments
      rw [← (List.cons.inj hsegments).2]
      exact dropBlankEnd_of_not_blank fun name hname => (h.2 name hname).1
    · rw [hnames] at hsegments
      rw [← (List.cons.inj hsegments).2]
      rfl
  rw [hstrip, parts_fst_eq_absolute_iff.2 h.isAbsolute, hkept]
  exact congrArg some (congrArg Path.mk h.1.symm)

end Path

/-- Where a path is found to lead is said by a canonical path. -/
theorem FileSystem.isCanonical_of_canonicalize {fs : FileSystem} {start found : Location}
    {path : Path} (h : fs.canonicalize start path = .ok found) : found.path.IsCanonical :=
  ⟨found.names, .of_straight (canonicalize_straight h).1⟩

namespace Prompt

variable {home : Option Path} {base p q : Path} {names names' : List Bytes}

theorem shownDirectory_of_not_below (hstarts : ¬ base.components <+: p.components) :
    shownDirectory (some base) p = p.display := by
  unfold shownDirectory
  rw [Option.bind_some, Path.stripPrefix?_eq_none_iff.2 hstarts]

/-- What is shown of a path in a home directory consists of the names that are left. -/
theorem shownDirectory_of_starts (h : p.IsWritten names) (hbase : base.bytes ≠ [])
    (hstarts : base.components <+: p.components) :
    ∃ front below, names = front ++ below ∧ base.components = .root :: front.map .normal ∧
      shownDirectory (some base) p =
        if below = [] then "~"
        else "~/" ++ Path.display ⟨Bytes.joinWith Path.separator below⟩ := by
  obtain ⟨front, below, rfl, hfront, hstrip⟩ := h.exists_front hbase hstarts
  refine ⟨front, below, rfl, hfront, ?_⟩
  have hempty : Bytes.joinWith Path.separator below = [] ↔ below = [] := by
    refine ⟨fun hnil => ?_, fun hnil => by rw [hnil]; rfl⟩
    by_contra hne
    have hsegments := Path.segments_joinWith hne fun name hname =>
      (h.2 name (List.mem_append_right _ hname)).2.2
    rw [hnil] at hsegments
    -- The only part of nothing is a blank one.
    obtain ⟨hblank, -⟩ := h.2 [] (List.mem_append_right _ (hsegments ▸ List.mem_singleton_self []))
    cases hblank
  unfold shownDirectory
  simp only [Option.bind_some, hstrip, List.isEmpty_iff, hempty]

/-- What is shown begins with a tilde below a home directory, and nowhere else. -/
theorem shownDirectory_ne (hp : p.IsWritten names) (hq : q.IsWritten names')
    (hbase : base.bytes ≠ []) (hstarts : base.components <+: p.components)
    (hnot : ¬ base.components <+: q.components) :
    shownDirectory (some base) p ≠ shownDirectory (some base) q := by
  obtain ⟨front, below, -, -, hshown⟩ := shownDirectory_of_starts hp hbase hstarts
  rw [hshown, shownDirectory_of_not_below hnot]
  split_ifs
  · exact (display_ne_tilde hq.isAbsolute "").symm
  · exact (display_ne_below hq.isAbsolute _).symm

/-- **What is shown** in two prompts is the same only for paths with the same text. -/
theorem display_eq_of_shownDirectory_eq (hp : p.IsWritten names) (hq : q.IsWritten names')
    (h : shownDirectory home p = shownDirectory home q) : p.display = q.display := by
  rcases home with _ | base
  · exact h
  by_cases hbase : base.bytes = []
  · -- Both are shown as they are, after the same characters.
    obtain rfl : base = ⟨[]⟩ := by rw [← hbase]
    have hshown : ∀ {p : Path} {names : List Bytes}, p.IsWritten names →
        shownDirectory (some ⟨[]⟩) p = "~/" ++ p.display := by
      intro p names hp
      have hne : p.bytes ≠ [] := by simp [hp.1]
      unfold shownDirectory
      simp only [Option.bind_some, hp.stripPrefix?_empty, List.isEmpty_iff, if_neg hne]
    rw [hshown hp, hshown hq] at h
    exact (String.append_right_inj _).1 h
  by_cases hstarts : base.components <+: p.components
  · by_cases hstarts' : base.components <+: q.components
    · obtain ⟨front, below, rfl, hfront, hshown⟩ := shownDirectory_of_starts hp hbase hstarts
      obtain ⟨front', below', rfl, hfront', hshown'⟩ := shownDirectory_of_starts hq hbase hstarts'
      have hnormal : Function.Injective Path.Component.normal := fun _ _ heq => by cases heq; rfl
      have hsame : front = front' :=
        List.map_injective_iff.2 hnormal (List.cons.inj (hfront.symm.trans hfront')).2
      subst hsame
      rw [hshown, hshown'] at h
      split_ifs at h with hnil hnil' hnil'
      · -- Both are the home directory.
        rw [Path.display, Path.display, hp.1, hq.1, hnil, hnil']
      · exact absurd h (tilde_ne_below _)
      · exact absurd h.symm (tilde_ne_below _)
      · exact hp.display_eq hq hnil hnil' ((String.append_right_inj _).1 h)
    · exact absurd h (shownDirectory_ne hp hq hbase hstarts hstarts')
  · by_cases hstarts' : base.components <+: q.components
    · exact absurd h.symm (shownDirectory_ne hq hp hbase hstarts' hstarts)
    · rwa [shownDirectory_of_not_below hstarts, shownDirectory_of_not_below hstarts'] at h

/-- **Different directories** have different prompts, whoever the user is and whatever the home
directory is, if their paths are canonical texts. -/
theorem render_injective (user : Option String) (home : Option Path) {p q : Path}
    (hp : p.IsCanonical) (hq : q.IsCanonical) (htext : p.bytes.toString?.isSome = true)
    (htext' : q.bytes.toString?.isSome = true) (hne : p ≠ q) :
    render user home p ≠ render user home q := by
  obtain ⟨names, hp⟩ := hp
  obtain ⟨names', hq⟩ := hq
  intro hsame
  have hshown := framed_inj.1 hsame
  exact hne (Path.eq_of_display_eq htext htext' (display_eq_of_shownDirectory_eq hp hq hshown))

end Prompt

namespace Sample

/-- A directory named by a tilde is told apart from the home directory above it. -/
theorem tilde_below_home :
    (Path.ofString "/home/x").IsCanonical ∧ (Path.ofString "/home/x/~").IsCanonical ∧
    Prompt.render none (some (Path.ofString "/home/x")) (Path.ofString "/home/x")
      ≠ Prompt.render none (some (Path.ofString "/home/x")) (Path.ofString "/home/x/~") := by
  have hhome : (Path.ofString "/home/x").IsCanonical :=
    ⟨[Bytes.ofString "home", Bytes.ofString "x"], by decide, by decide⟩
  have hbelow : (Path.ofString "/home/x/~").IsCanonical :=
    ⟨[Bytes.ofString "home", Bytes.ofString "x", Bytes.ofString "~"], by decide, by decide⟩
  exact ⟨hhome, hbelow, Prompt.render_injective none (some (Path.ofString "/home/x")) hhome hbelow
    (by decide +kernel) (by decide +kernel) (by decide)⟩

end Sample

end CommandShell
