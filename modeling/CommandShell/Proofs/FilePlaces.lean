import CommandShell.Proofs.GrownFiles

namespace CommandShell

/-!
# FilePlaces — where a path to be created leads

The way to a file that may have to be made is walked up to its last name, and that name is then
looked up in a directory. A link under it is followed in the same manner.

* `FileSystem.EndsIn` — the directory and the name that such a way ends in;
* `FileSystem.Reaches` — the places that parts of a path lead to;
* `FileSystem.placeOf_eq_ok_iff` — these are the places that are found;
* `FileSystem.Reaches.of_keepsNames`, `FileSystem.Reaches.of_made` — where the path leads once files
  were made, that one among them.
-/

namespace FileSystem

/-- A way ends in a name that can be looked up in a directory. -/
structure EndsIn (fs : FileSystem) (links : Nat) (at' : Location) (parts : List Bytes)
    (directory : Location) (name : Bytes) (entries : List (Bytes × NodeId)) : Prop where
  /-- The parts before the name lead to the directory. -/
  walked : ∃ front, parts = front ++ [name] ∧ fs.walk links at' front = .ok directory
  /-- There is a directory with those entries. -/
  holds : fs.node? directory.node = some (.directory entries)
  /-- The name is no blank part. -/
  not_blank : ¬ Path.isBlank name = true
  /-- It is not the directory above. -/
  not_above : name ≠ Path.above
  /-- It is short enough for an entry. -/
  short : ¬ name.length > nameLimit

/-- Parts of a path to be created lead to a place. -/
inductive Reaches (fs : FileSystem) :
    (links : Nat) → Location → (parts : List Bytes) → Place → Prop
  /-- A way that ends in no name is walked. -/
  | walked {links at' parts found} :
      (∀ name, (dropSlashes parts).getLast? = some name →
        Path.isBlank name = true ∨ name = Path.above) →
      fs.walk links at' parts = .ok found →
      Reaches fs links at' parts (.existing found.node)
  /-- The name is free. -/
  | vacant {links at' parts directory name entries} :
      fs.EndsIn links at' parts directory name entries → lookup entries name = none →
      Reaches fs links at' parts (.vacant directory name)
  /-- The name is that of a file, or of anything else but a link. -/
  | entry {links at' parts directory name entries id} :
      fs.EndsIn links at' parts directory name entries → lookup entries name = some id →
      (∀ target, fs.node? id ≠ some (.link target)) →
      Reaches fs links at' parts (.existing id)
  /-- The name is that of a link, whose target is read in the directory that holds it. -/
  | link {links at' parts directory name entries id target place} :
      fs.EndsIn (links + 1) at' parts directory name entries → lookup entries name = some id →
      fs.node? id = some (.link target) →
      Reaches fs links (if target.isAbsolute then .root else directory) target.segments place →
      Reaches fs (links + 1) at' parts place

variable {fs : FileSystem} {links : Nat} {at' directory : Location} {parts front : List Bytes}
  {name : Bytes} {entries : List (Bytes × NodeId)} {place : Place}

/-- Nothing is dropped behind a name. -/
theorem dropSlashes_concat (h : name.isEmpty = false) :
    dropSlashes (front ++ [name]) = front ++ [name] := by
  unfold dropSlashes
  rw [List.reverse_append, List.reverse_singleton, List.singleton_append,
    List.dropWhile_cons_of_neg (by simp [h])]
  simp

/-- Parts that get no fewer end as they did. -/
theorem dropSlashes_eq_self (h : ¬ (dropSlashes parts).length < parts.length) :
    dropSlashes parts = parts := by
  have hsuffix := List.dropWhile_suffix (l := parts.reverse) List.isEmpty
  have hlength : (parts.reverse.dropWhile List.isEmpty).length = parts.reverse.length := by
    have hle := hsuffix.length_le
    rw [dropSlashes, List.length_reverse] at h
    rw [List.length_reverse] at hle ⊢
    omega
  rw [dropSlashes, hsuffix.eq_of_length hlength, List.reverse_reverse]

/-- A place that is found is one that the parts lead to. -/
theorem reaches_of_placeOf (h : fs.placeOf links at' parts = .ok place) :
    fs.Reaches links at' parts place := by
  induction links using Nat.strongRecOn generalizing at' parts with
  | _ links ih =>
    have hwalked : (do return Place.existing (← fs.walk links at' parts).node) = Except.ok place →
        ∃ found, fs.walk links at' parts = .ok found ∧ place = .existing found.node := by
      intro hask
      rcases hfound : fs.walk links at' parts with reason | found
      · rw [hfound] at hask
        cases hask
      · rw [hfound] at hask
        cases hask
        exact ⟨found, rfl, rfl⟩
    rcases hlast : (dropSlashes parts).getLast? with _ | name
    · rw [placeOf] at h
      simp only [hlast] at h
      obtain ⟨found, hfound, rfl⟩ := hwalked h
      exact .walked (by simp [hlast]) hfound
    · by_cases hplain : Path.isBlank name = true ∨ name = Path.above
      · rw [placeOf] at h
        simp only [hlast, if_pos hplain] at h
        obtain ⟨found, hfound, rfl⟩ := hwalked h
        exact .walked (by simpa [hlast] using hplain) hfound
      · rw [placeOf] at h
        simp only [hlast, if_neg hplain] at h
        obtain ⟨hblank, habove⟩ := not_or.1 hplain
        rcases hwalk : fs.walk links at' (dropSlashes parts).dropLast with reason | directory
        · rw [hwalk] at h
          cases h
        · simp only [hwalk, bind, Except.bind] at h
          split at h
          · rename_i entries hholds
            split at h
            · cases h
            · rename_i hslash
              split at h
              · cases h
              · rename_i hshort
                -- No separator is after the name, so it is the last part.
                have hparts := dropSlashes_eq_self hslash
                rw [hparts] at hlast hwalk
                obtain ⟨front, rfl⟩ := List.getLast?_eq_some_iff.1 hlast
                rw [List.dropLast_concat] at hwalk
                have hends : fs.EndsIn links at' (front ++ [name]) directory name entries :=
                  ⟨⟨front, rfl, hwalk⟩, hholds, hblank, habove, hshort⟩
                split at h
                · rename_i hfree
                  cases h
                  exact .vacant hends hfree
                · rename_i id hid
                  split at h
                  · cases h
                  · rename_i hlink
                    exact .link hends hid hlink (ih _ (Nat.lt_succ_self _) h)
                  · rename_i hzero hsucc
                    cases h
                    refine .entry hends hid fun target hlink => ?_
                    exact (Nat.eq_zero_or_eq_succ_pred _).elim (hzero target hlink)
                      (hsucc target _ hlink)
          · cases h
          · cases h

/-- Where the entry of a directory leads: to itself, or where the link that it is leads. -/
def placeUnder (fs : FileSystem) (links : Nat) (directory : Location) (id : NodeId) :
    Except Errno Place :=
  match fs.node? id, links with
  | some (.link _), 0 => .error .tooManyLinks
  | some (.link target), links + 1 =>
    fs.placeOf links (if target.isAbsolute then .root else directory) target.segments
  | _, _ => .ok (.existing id)

theorem placeUnder_of_not_link {id : NodeId} (h : ∀ target, fs.node? id ≠ some (.link target))
    (links : Nat) (directory : Location) :
    fs.placeUnder links directory id = .ok (.existing id) := by
  unfold placeUnder
  split
  · rename_i hlink
    exact absurd hlink (h _)
  · rename_i hlink
    exact absurd hlink (h _)
  · rfl

/-- A way that ends in a name leads to where the name is free, or to what it stands for. -/
theorem placeOf_of_endsIn (h : fs.EndsIn links at' parts directory name entries) :
    fs.placeOf links at' parts =
      match lookup entries name with
      | none => .ok (.vacant directory name)
      | some id => fs.placeUnder links directory id := by
  obtain ⟨⟨front, rfl, hwalk⟩, hholds, hblank, habove, hshort⟩ := h
  have hfull : name.isEmpty = false := by
    unfold Path.isBlank at hblank
    exact (Bool.or_eq_false_iff.1 (Bool.eq_false_iff.2 hblank)).1
  have hplain : ¬ (Path.isBlank name = true ∨ name = Path.above) := not_or.2 ⟨hblank, habove⟩
  rw [placeOf]
  simp only [dropSlashes_concat hfull, List.getLast?_concat, if_neg hplain, List.dropLast_concat,
    hwalk]
  simp only [bind, Except.bind, hholds, Nat.lt_irrefl, if_false, if_neg hshort]
  rcases lookup entries name with _ | id
  · rfl
  · unfold placeUnder
    rfl

/-- **Places.** What is found is what the parts lead to. -/
theorem placeOf_eq_ok_iff :
    fs.placeOf links at' parts = .ok place ↔ fs.Reaches links at' parts place := by
  refine ⟨reaches_of_placeOf, fun h => ?_⟩
  induction h with
  | @walked links at' parts found hlast hfound =>
    rw [placeOf]
    split
    · rw [hfound]
      rfl
    · rename_i name hname
      rw [if_pos (hlast name hname), hfound]
      rfl
  | vacant hends hfree => rw [placeOf_of_endsIn hends, hfree]
  | entry hends hid hlink =>
    rw [placeOf_of_endsIn hends, hid]
    exact placeUnder_of_not_link hlink _ _
  | @link links at' parts directory name entries id target place hends hid hlink _ ih =>
    rw [placeOf_of_endsIn hends, hid]
    simp only [placeUnder, hlink]
    exact ih

/-- A path to be created leads to a place if it can be handed to the system and its parts do. -/
theorem locateNew_eq_ok {start : Location} {path : Path} :
    fs.locateNew start path = .ok place ↔
      checkPath path = .ok () ∧
        fs.Reaches linkLimit (startOf start path) path.segments place := by
  rw [← placeOf_eq_ok_iff]
  unfold locateNew
  rcases checkPath path with reason | ⟨⟩ <;> simp [bind, Except.bind]

/-- A name that is free is that of a file to be made in a directory. -/
theorem Reaches.exists_entries (h : fs.Reaches links at' parts (.vacant directory name)) :
    ∃ entries, fs.node? directory.node = some (.directory entries) ∧
      lookup entries name = none := by
  generalize hplace : Place.vacant directory name = place at h
  induction h with
  | walked => cases hplace
  | vacant hends hfree =>
    cases hplace
    exact ⟨_, hends.holds, hfree⟩
  | entry => cases hplace
  | link _ _ _ _ ih => exact ih hplace

/-! ### Places once files were made -/

variable {fs' : FileSystem} {id : NodeId}

/-- A name that stands for something still ends the way, and stands for the same. -/
theorem EndsIn.of_keepsNames (h : fs.EndsIn links at' parts directory name entries)
    (hid : lookup entries name = some id) (hkeeps : KeepsNames fs fs') :
    ∃ entries', fs'.EndsIn links at' parts directory name entries' ∧
      lookup entries' name = some id := by
  obtain ⟨⟨front, hparts, hwalk⟩, hholds, hblank, habove, hshort⟩ := h
  have hentries : fs.entries? directory.node = some entries := by rw [entries?, hholds]
  obtain ⟨entries', hentries', hkept⟩ := hkeeps.entries hentries
  have hid' := hkept hid
  have hholds' : fs'.node? directory.node = some (.directory entries') := by
    unfold entries? at hentries'
    split at hentries'
    · rename_i hnode
      cases hentries'
      exact hnode
    · -- Nothing is in a directory that was removed.
      cases hentries'
      cases hid'
    · cases hentries'
  exact ⟨entries', ⟨⟨front, hparts, hkeeps.walk_ok hwalk⟩, hholds', hblank, habove, hshort⟩, hid'⟩

/-- What a path to be created led to it still leads to. -/
theorem Reaches.of_keepsNames (h : fs.Reaches links at' parts (.existing id))
    (hkeeps : KeepsNames fs fs') : fs'.Reaches links at' parts (.existing id) := by
  generalize hplace : Place.existing id = place at h ⊢
  induction h with
  | walked hlast hfound => exact .walked hlast (hkeeps.walk_ok hfound)
  | vacant => cases hplace
  | entry hends hid hlink =>
    obtain ⟨entries', hends', hid'⟩ := hends.of_keepsNames hid hkeeps
    exact .entry hends' hid' fun target htarget => hlink target (hkeeps.link_iff.1 htarget)
  | link hends hid hlink _ ih =>
    obtain ⟨entries', hends', hid'⟩ := hends.of_keepsNames hid hkeeps
    exact .link hends' hid' (hkeeps.link_iff.2 hlink) (ih hplace)

/-- A path led to a free name, so it leads to the file that is made under it. -/
theorem Reaches.of_made (h : fs.Reaches links at' parts (.vacant directory name))
    (hkeeps : KeepsNames fs fs') (hholds : fs'.node? directory.node = some (.directory entries))
    (hid : lookup entries name = some id) (hlink : ∀ target, fs'.node? id ≠ some (.link target)) :
    fs'.Reaches links at' parts (.existing id) := by
  generalize hplace : Place.vacant directory name = place at h
  induction h with
  | walked => cases hplace
  | vacant hends hfree =>
    cases hplace
    obtain ⟨⟨front, hparts, hwalk⟩, -, hblank, habove, hshort⟩ := hends
    exact .entry ⟨⟨front, hparts, hkeeps.walk_ok hwalk⟩, hholds, hblank, habove, hshort⟩ hid hlink
  | entry => cases hplace
  | link hends hid' hlink' _ ih =>
    obtain ⟨entries', hends', hid''⟩ := hends.of_keepsNames hid' hkeeps
    exact .link hends' hid'' (hkeeps.link_iff.2 hlink') (ih hplace)

end FileSystem

end CommandShell
