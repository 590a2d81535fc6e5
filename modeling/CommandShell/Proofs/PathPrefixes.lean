import CommandShell.Proofs.CanonicalPaths
import CommandShell.Proofs.CommandNames
import Mathlib.Data.List.DropRight

namespace CommandShell

/-!
# PathPrefixes — what is left of a path below another

A path lies below another if the components of the other are the first ones of its own. What is left
of it is a relative path that leads from the other to it:

* `Path.remaining` — the parts that are left, blank ones at both ends dropped;
  `Path.filterMap_remaining` — they say what the parts said, but for the first components;
* `Path.components_join` — the components of a path that goes on from another;
* `Path.IsBelow` — a path that leads from one path to another strictly below it;
* `Path.stripPrefix?_isBelow` — what is left of a path is such a path, or empty;
* `Path.IsBelow.base_starts` — only where the one path begins with the other is there one.
-/

namespace Path

variable {p base rest : Path} {parts : List Bytes} {segment : Bytes}

/-! ### Parts that say nothing -/

theorem ofSegment?_eq_none_iff : Component.ofSegment? segment = none ↔ isBlank segment = true := by
  unfold Component.ofSegment?
  split_ifs with hblank <;> simp [hblank]

theorem filterMap_dropWhile_isBlank (parts : List Bytes) :
    (parts.dropWhile isBlank).filterMap Component.ofSegment?
      = parts.filterMap Component.ofSegment? := by
  induction parts with
  | nil => rfl
  | cons part parts ih =>
    by_cases hblank : isBlank part = true
    · rw [List.dropWhile_cons_of_pos hblank, ih,
        List.filterMap_cons_none (ofSegment?_eq_none_iff.2 hblank)]
    · rw [List.dropWhile_cons_of_neg hblank]

theorem filterMap_dropBlankEnd (parts : List Bytes) :
    (dropBlankEnd parts).filterMap Component.ofSegment?
      = parts.filterMap Component.ofSegment? := by
  rw [dropBlankEnd, List.filterMap_reverse, filterMap_dropWhile_isBlank, List.filterMap_reverse,
    List.reverse_reverse]

/-- Dropping parts drops what they say, and skips blank ones on the way. -/
theorem filterMap_dropParts (n : Nat) (parts : List Bytes) :
    (dropParts n parts).filterMap Component.ofSegment?
      = (parts.filterMap Component.ofSegment?).drop n := by
  fun_induction dropParts n parts with
  | case1 parts => rfl
  | case2 n => rfl
  | case3 n part parts hblank ih =>
    rw [ih, List.filterMap_cons_none (ofSegment?_eq_none_iff.2 hblank)]
  | case4 n part parts hblank ih =>
    have hsaid : Component.ofSegment? part ≠ none := fun hnone =>
      hblank (ofSegment?_eq_none_iff.1 hnone)
    obtain ⟨component, hcomponent⟩ := Option.ne_none_iff_exists'.1 hsaid
    rw [ih, List.filterMap_cons_some hcomponent, List.drop_succ_cons]

theorem dropParts_suffix (n : Nat) (parts : List Bytes) : dropParts n parts <:+ parts := by
  fun_induction dropParts n parts with
  | case1 parts => exact List.suffix_refl _
  | case2 n => exact List.suffix_refl _
  | case3 n part parts hblank ih => exact ih.trans (List.suffix_cons _ _)
  | case4 n part parts hblank ih => exact ih.trans (List.suffix_cons _ _)

/-! ### The parts that are left -/

/-- The parts after the first `n` that say something, without blank ones at both ends. -/
def remaining (n : Nat) (parts : List Bytes) : List Bytes :=
  dropBlankEnd ((dropParts n parts).dropWhile isBlank)

/-- They say what the parts said after the first `n` components. -/
theorem filterMap_remaining (n : Nat) (parts : List Bytes) :
    (remaining n parts).filterMap Component.ofSegment?
      = (parts.filterMap Component.ofSegment?).drop n := by
  rw [remaining, filterMap_dropBlankEnd, filterMap_dropWhile_isBlank, filterMap_dropParts]

/-- An empty part in front makes no difference. -/
theorem remaining_cons_nil (n : Nat) (parts : List Bytes) :
    remaining n ([] :: parts) = remaining n parts := by
  rcases n with _ | n
  · rw [remaining, remaining, dropParts, dropParts, List.dropWhile_cons_of_pos (by rfl)]
  · rw [remaining, remaining, dropParts, if_pos (by rfl)]

theorem mem_of_mem_remaining {n : Nat} (h : segment ∈ remaining n parts) : segment ∈ parts := by
  have hend : segment ∈ (dropParts n parts).dropWhile isBlank :=
    (List.rdropWhile_prefix isBlank _).mem h
  exact (dropParts_suffix n parts).mem ((List.dropWhile_suffix isBlank).mem hend)

/-- The first of them says something. -/
theorem not_isBlank_of_remaining {n : Nat} {others : List Bytes}
    (h : remaining n parts = segment :: others) : isBlank segment = false := by
  have hstarts : segment :: others <+: (dropParts n parts).dropWhile isBlank := by
    rw [← h]
    exact List.rdropWhile_prefix isBlank _
  obtain ⟨after, hafter⟩ := hstarts
  have hhead := List.head?_dropWhile_not isBlank (dropParts n parts)
  rw [← hafter] at hhead
  simpa using hhead

/-- The parts that a path is written from are its parts. -/
theorem segments_joinWith (h : parts ≠ []) (hone : ∀ part ∈ parts, separator ∉ part) :
    segments ⟨Bytes.joinWith separator parts⟩ = parts := by
  rw [segments, Bytes.joinWith, Bytes.splitOn_eq, List.splitOn_intercalate separator hone h]

/-! ### Components of absolute paths -/

theorem parts_fst_eq_absolute_iff : p.parts.1 = .absolute ↔ p.isAbsolute = true := by
  obtain ⟨_ | ⟨b, bytes⟩⟩ := p
  · simp [parts, isAbsolute]
  · unfold parts isAbsolute
    by_cases hb : b = separator
    · simp [hb]
    · simp only [if_neg hb, List.head?_cons]
      split
      · simp [hb]
      · split_ifs <;> simp [hb]

theorem segments_of_isAbsolute (h : p.isAbsolute = true) : p.segments = [] :: p.parts.2 := by
  obtain ⟨_ | ⟨b, bytes⟩⟩ := p
  · cases h
  · obtain rfl : b = separator := by simpa [isAbsolute] using h
    unfold parts
    simp only [if_true]
    exact Bytes.splitOn_append_cons [] bytes

/-- An absolute path says that it starts at the root, and then what its parts say. -/
theorem components_of_isAbsolute_eq (h : p.isAbsolute = true) :
    p.components = .root :: p.segments.filterMap Component.ofSegment? := by
  rw [components, parts_fst_eq_absolute_iff.2 h, segments_of_isAbsolute h]
  rfl

/-- Only an absolute path says that. -/
theorem isAbsolute_of_components {others : List Component}
    (h : p.components = .root :: others) : p.isAbsolute = true := by
  rw [components] at h
  rcases hstart : p.parts.1 with _ | _ | _
  · exact parts_fst_eq_absolute_iff.1 hstart
  · rw [hstart] at h
    cases h
  · rw [hstart] at h
    have hmem : Component.root ∈ p.parts.2.filterMap Component.ofSegment? := by
      rw [show p.parts.2.filterMap Component.ofSegment? = .root :: others from h]
      exact List.mem_cons_self
    obtain ⟨part, -, hpart⟩ := List.mem_filterMap.1 hmem
    unfold Component.ofSegment? at hpart
    split_ifs at hpart <;> cases hpart

/-- Only the empty path says nothing. -/
theorem components_ne_nil (h : p.bytes ≠ []) : p.components ≠ [] := by
  by_cases hone : separator ∈ p.bytes
  · obtain ⟨first, others, hsegments, -, hfirst⟩ := exists_segments hone
    by_cases hempty : first = []
    · rw [components_of_isAbsolute_eq (hfirst hempty)]
      exact List.cons_ne_nil _ _
    · obtain ⟨component, -, hcomponents⟩ := components_of_segments hsegments hempty
      rw [hcomponents]
      exact List.cons_ne_nil _ _
  · obtain ⟨component, -, hcomponents⟩ := components_of_segments (segments_of_not_mem hone) h
    rw [hcomponents]
    exact List.cons_ne_nil _ _

/-- A path that goes on from an absolute one says what that says, and then what its own parts say. -/
theorem components_join (hbase : base.isAbsolute = true) (hrest : rest.isAbsolute = false) :
    (base.join rest).components
      = base.components ++ rest.segments.filterMap Component.ofSegment? := by
  obtain ⟨front, hjoin, hfront⟩ := segments_join base hrest
  -- A separator at the end of the directory leaves one blank part more.
  have hsame : base.segments.filterMap Component.ofSegment?
      = front.filterMap Component.ofSegment? := by
    rcases hfront with hfront | hfront
    · rw [hfront]
    · rw [hfront, List.filterMap_append]
      exact List.append_nil _
  rw [components_of_isAbsolute_eq hbase, components_of_isAbsolute_eq (isAbsolute_join hbase rest),
    hjoin, List.filterMap_append, hsame, List.cons_append]

/-- Reading a relative path makes nothing absolute. -/
theorem isAbsolute_of_join (h : (base.join rest).isAbsolute = true)
    (hrest : rest.isAbsolute = false) : base.isAbsolute = true := by
  unfold join at h
  rw [if_neg (by simp [hrest])] at h
  obtain ⟨_ | ⟨b, bytes⟩⟩ := base
  · simp [isAbsolute] at h hrest
    exact absurd h hrest
  · split_ifs at h <;> exact h

/-! ### Paths below others -/

/-- The path `rest` leads from `base` to `p`, which lies strictly below it: it is relative and not
    empty, and read from `base` it says what `p` says. -/
structure IsBelow (rest base p : Path) : Prop where
  /-- There is something in it. -/
  not_empty : rest.bytes ≠ []
  /-- It does not start at the root. -/
  relative : rest.isAbsolute = false
  /-- It leads from the one to the other. -/
  joined : (base.join rest).components = p.components
  /-- They are not the same. -/
  strict : base.components ≠ p.components

/-- Nothing absolute lies below a relative path, and what lies below begins with all that is said
    above. -/
theorem IsBelow.base_starts (h : rest.IsBelow base p) (hp : p.isAbsolute = true) :
    base.isAbsolute = true ∧ base.components <+: p.components := by
  have hjoined := h.joined
  rw [components_of_isAbsolute_eq hp] at hjoined
  have hbase := isAbsolute_of_join (isAbsolute_of_components hjoined) h.relative
  refine ⟨hbase, ?_⟩
  rw [← h.joined, components_join hbase h.relative]
  exact List.prefix_append _ _

theorem stripPrefix?_eq_none_iff :
    p.stripPrefix? base = none ↔ ¬ base.components <+: p.components := by
  rw [← List.isPrefixOf_iff_prefix]
  unfold stripPrefix?
  split_ifs with hstarts
  · refine iff_of_false ?_ (not_not_intro hstarts)
    split <;> exact Option.some_ne_none _
  · exact iff_of_true rfl hstarts

/-- What is left of an absolute path consists of what is left of its parts. -/
theorem stripPrefix?_of_starts (hp : p.isAbsolute = true) (hbase : base.bytes ≠ [])
    (hstarts : base.components <+: p.components) :
    p.stripPrefix? base = some
      ⟨Bytes.joinWith separator (remaining (base.components.length - 1) p.segments)⟩ := by
  obtain ⟨first, others, hcomponents⟩ := List.exists_cons_of_ne_nil (components_ne_nil hbase)
  unfold stripPrefix?
  rw [if_pos (List.isPrefixOf_iff_prefix.2 hstarts), parts_fst_eq_absolute_iff.2 hp, hcomponents,
    segments_of_isAbsolute hp, remaining_cons_nil]
  rfl

/-- A path that begins with a part that says something leads below every absolute path. -/
theorem IsBelow.of_segments {first : Bytes} {others : List Bytes} (hbase : base.isAbsolute = true)
    (hsegments : rest.segments = first :: others) (hfirst : isBlank first = false)
    (hp : p.components = base.components ++ rest.segments.filterMap Component.ofSegment?) :
    rest.IsBelow base p := by
  have hempty : first ≠ [] := by
    rintro rfl
    exact absurd hfirst (by decide)
  have hrelative := isAbsolute_of_segments hsegments hempty
  refine ⟨fun hnil => ?_, hrelative, ?_, fun hsame => ?_⟩
  · rw [segments, hnil] at hsegments
    exact hempty (List.cons.inj hsegments).1.symm
  · rw [components_join hbase hrelative, hp]
  · have hnothing := List.self_eq_append_right.1 (hsame.trans hp)
    rw [hsegments, filterMap_ofSegment?_eq_nil_iff] at hnothing
    rw [hnothing first List.mem_cons_self] at hfirst
    cases hfirst

/-- **What is left** of an absolute path below another that is not empty leads from there to it, and
is empty if they say the same. -/
theorem stripPrefix?_isBelow (hp : p.isAbsolute = true) (hbase : base.bytes ≠ [])
    (h : p.stripPrefix? base = some rest) :
    rest.bytes = [] ∧ base.components = p.components ∨ rest.IsBelow base p := by
  have hstarts : base.components <+: p.components := by
    by_contra hnot
    rw [stripPrefix?_eq_none_iff.2 hnot] at h
    cases h
  rw [stripPrefix?_of_starts hp hbase hstarts] at h
  obtain rfl := Option.some.inj h
  obtain ⟨first, others, hfirst⟩ := List.exists_cons_of_ne_nil (components_ne_nil hbase)
  have hcomponents := components_of_isAbsolute_eq hp
  obtain ⟨more, hmore⟩ := hstarts
  rw [hfirst, hcomponents, List.cons_append] at hmore
  obtain ⟨rfl, hothers⟩ := List.cons.inj hmore
  -- What is left says what is said after the components of the other path.
  have hleft : (remaining (base.components.length - 1) p.segments).filterMap Component.ofSegment?
      = more := by
    rw [filterMap_remaining, ← hothers, hfirst, List.length_cons, Nat.add_sub_cancel,
      List.drop_left]
  have hsaid : p.components = base.components ++ more := by
    rw [hcomponents, ← hothers, hfirst, List.cons_append]
  rcases hremaining : remaining (base.components.length - 1) p.segments with _ | ⟨part, parts⟩
  · rw [hremaining] at hleft
    refine .inl ⟨rfl, ?_⟩
    rw [hsaid, ← hleft, List.filterMap_nil, List.append_nil]
  · have hone : ∀ part' ∈ part :: parts, separator ∉ part' := fun part' hpart' =>
      not_mem_of_mem_segments (mem_of_mem_remaining (hremaining ▸ hpart'))
    have hsegments := segments_joinWith (List.cons_ne_nil part parts) hone
    refine .inr (.of_segments (isAbsolute_of_components hfirst) hsegments
      (not_isBlank_of_remaining hremaining) ?_)
    rw [hsegments, ← hremaining, hleft, hsaid]

/-- Below the empty path lies every path, and what is left of an absolute one is absolute still. -/
theorem stripPrefix?_empty (hp : p.isAbsolute = true) :
    ∃ rest, p.stripPrefix? ⟨[]⟩ = some rest ∧ rest.isAbsolute = true ∧
      rest.components = p.components := by
  have hstrip : p.stripPrefix? ⟨[]⟩ = some (ofParts p.parts.1 (dropBlankEnd p.parts.2)) := rfl
  rw [hstrip, parts_fst_eq_absolute_iff.2 hp]
  refine ⟨_, rfl, rfl, ?_⟩
  set kept := dropBlankEnd p.parts.2 with hkept
  have hsegments : segments (ofParts .absolute kept)
      = [] :: segments ⟨Bytes.joinWith separator kept⟩ :=
    Bytes.splitOn_append_cons [] (Bytes.joinWith separator kept)
  have hsame : (segments ⟨Bytes.joinWith separator kept⟩).filterMap Component.ofSegment?
      = kept.filterMap Component.ofSegment? := by
    by_cases hnil : kept = []
    · rw [hnil]
      rfl
    · rw [segments_joinWith hnil fun part hpart => ?_]
      have hmem : part ∈ p.parts.2 := (List.rdropWhile_prefix isBlank _).mem hpart
      exact not_mem_of_mem_segments (segments_of_isAbsolute hp ▸ List.mem_cons_of_mem _ hmem)
  rw [components_of_isAbsolute_eq rfl, components_of_isAbsolute_eq hp, hsegments,
    segments_of_isAbsolute hp, List.filterMap_cons_none rfl, List.filterMap_cons_none rfl, hsame,
    hkept, filterMap_dropBlankEnd]

end Path

end CommandShell
