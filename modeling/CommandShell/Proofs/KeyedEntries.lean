import Mathlib.Data.List.Nodup

namespace CommandShell

/-!
# KeyedEntries — looking up a key in a list of entries

Maps, directories and tables of documents are lists of entries, and a key has the value of the first
entry with it:

* `KeyedEntries.find_eq_none_iff` — a key without a value is that of no entry;
* `KeyedEntries.find_eq_some_iff` — if no two entries have one key, the value of a key is that of its
  entry.
-/

namespace KeyedEntries

variable {κ α : Type} [DecidableEq κ] {entries : List (κ × α)} {key : κ} {value : α}

theorem find_eq_none_iff :
    (entries.find? (·.1 = key)).map (·.2) = none ↔ key ∉ entries.map (·.1) := by
  rw [Option.map_eq_none_iff, List.find?_eq_none]
  constructor
  · rintro hnone hmem
    obtain ⟨entry, hentry, rfl⟩ := List.mem_map.1 hmem
    exact hnone entry hentry (decide_eq_true rfl)
  · intro hfree entry hentry hkey
    exact hfree (List.mem_map.2 ⟨entry, hentry, of_decide_eq_true hkey⟩)

/-- What is found is the value of an entry. -/
theorem mem_of_find (h : (entries.find? (·.1 = key)).map (·.2) = some value) :
    (key, value) ∈ entries := by
  obtain ⟨⟨key', value'⟩, hfind, rfl⟩ := Option.map_eq_some_iff.1 h
  have hkey := List.find?_some hfind
  obtain rfl : key' = key := of_decide_eq_true hkey
  exact List.mem_of_find?_eq_some hfind

/-- **Looking up** a key finds its entry, where there is only one. -/
theorem find_eq_some_iff (hdistinct : (entries.map (·.1)).Nodup) :
    (entries.find? (·.1 = key)).map (·.2) = some value ↔ (key, value) ∈ entries := by
  refine ⟨mem_of_find, fun hmem => ?_⟩
  rcases hfound : (entries.find? (·.1 = key)).map (·.2) with _ | value'
  · exact absurd (List.mem_map_of_mem hmem) (find_eq_none_iff.1 hfound)
  · have hsame : (key, value') = (key, value) :=
      List.inj_on_of_nodup_map hdistinct (mem_of_find hfound) hmem rfl
    rw [hfound, (Prod.mk.inj hsame).2]

end KeyedEntries

end CommandShell
