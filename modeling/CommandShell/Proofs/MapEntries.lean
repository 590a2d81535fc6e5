import CommandShell.OrderedMap
import CommandShell.Proofs.KeyedEntries

namespace CommandShell

/-!
# MapEntries — what a map holds, entry by entry

* `OrderedMap.nodup_keys` — no key has two entries;
* `OrderedMap.mem_entries_erase`, `OrderedMap.get?_erase_of_ne` — the entries without a key, and
  what is looked up then;
* `OrderedMap.entries_foldl_erase` — the entries without several keys;
* `OrderedMap.get?_eq_some_iff` — looking up a key finds its entry;
* `OrderedMap.mem_entries_insert` — the entries after a key was given a value;
* `OrderedMap.insert_insert` — of two values for one key the later one stays.
-/

namespace OrderedMap

variable {κ α : Type} [LT κ]

/-- No key has two entries. -/
theorem nodup_keys [Std.Irrefl (α := κ) (· < ·)] (map : OrderedMap κ α) :
    (map.entries.map (·.1)).Nodup := by
  rw [List.Nodup, List.pairwise_map]
  refine map.ascending.imp ?_
  rintro x y hlt heq
  rw [heq] at hlt
  exact Std.Irrefl.irrefl _ hlt

variable [DecidableEq κ] {map : OrderedMap κ α} {key other : κ} {value : α} {entry : κ × α}

/-- Without the key, the others stay. -/
theorem mem_entries_erase :
    entry ∈ (map.erase key).entries ↔ entry ∈ map.entries ∧ entry.1 ≠ key := by
  show entry ∈ map.entries.filter _ ↔ _
  rw [List.mem_filter, decide_eq_true_iff]

/-- Several keys are left out one by one. -/
theorem entries_foldl_erase (map : OrderedMap κ α) (keys : List κ) :
    (keys.foldl erase map).entries = map.entries.filter fun entry => decide (entry.1 ∉ keys) := by
  induction keys generalizing map with
  | nil => simp
  | cons key keys ih =>
    rw [List.foldl_cons, ih]
    show (map.entries.filter _).filter _ = _
    rw [List.filter_filter]
    refine List.filter_congr fun entry _ => ?_
    simp [Bool.and_comm]

theorem get?_eq_none_iff : map.get? key = none ↔ ∀ entry ∈ map.entries, entry.1 ≠ key := by
  simp [get?, List.find?_eq_none]

variable [Std.Irrefl (α := κ) (· < ·)]

/-- **Looking up** a key finds its entry. -/
theorem get?_eq_some_iff : map.get? key = some value ↔ (key, value) ∈ map.entries :=
  KeyedEntries.find_eq_some_iff map.nodup_keys

/-- Leaving out a key does not change what another one has. -/
theorem get?_erase_of_ne (h : other ≠ key) : (map.erase key).get? other = map.get? other := by
  refine Option.ext fun value => ?_
  rw [get?_eq_some_iff, get?_eq_some_iff, mem_entries_erase]
  exact and_iff_left h

/-- **Giving a key a value** puts its entry in place of any that the key had. -/
theorem mem_entries_insert [DecidableLT κ] [KeyOrder κ] :
    entry ∈ (map.insert key value).entries ↔
      entry = (key, value) ∨ (entry ∈ map.entries ∧ entry.1 ≠ key) := by
  obtain ⟨other, held⟩ := entry
  rw [← get?_eq_some_iff, ← get?_eq_some_iff]
  by_cases hkey : other = key
  · subst hkey
    rw [get?_insert_self]
    simp [eq_comm]
  · rw [get?_insert_of_ne hkey]
    simp [hkey]

theorem insertEntry_insertEntry [DecidableLT κ] (key : κ) (earlier later : α)
    (entries : List (κ × α)) :
    insertEntry key later (insertEntry key earlier entries) = insertEntry key later entries := by
  have hself : ¬ key < key := Std.Irrefl.irrefl key
  -- The earlier entry stands where the later one belongs.
  have htop : ∀ rest : List (κ × α),
      insertEntry key later ((key, earlier) :: rest) = (key, later) :: rest := by
    intro rest
    rw [insertEntry, if_neg hself, if_pos rfl]
  induction entries with
  | nil => exact htop []
  | cons entry rest ih =>
    by_cases hless : key < entry.1
    · rw [insertEntry, if_pos hless, htop, insertEntry, if_pos hless]
    · by_cases hsame : key = entry.1
      · rw [insertEntry, if_neg hless, if_pos hsame, htop, insertEntry, if_neg hless,
          if_pos hsame]
      · rw [insertEntry, if_neg hless, if_neg hsame, insertEntry, if_neg hless, if_neg hsame, ih,
          insertEntry, if_neg hless, if_neg hsame]

/-- Of two values for one key the later one stays. -/
theorem insert_insert [DecidableLT κ] [KeyOrder κ] (map : OrderedMap κ α) (key : κ)
    (earlier later : α) : (map.insert key earlier).insert key later = map.insert key later := by
  have hentries := insertEntry_insertEntry key earlier later map.entries
  unfold insert
  congr

end OrderedMap

end CommandShell
