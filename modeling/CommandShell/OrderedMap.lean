namespace CommandShell

/-!
# OrderedMap — one value per key, in the order of the keys

* `KeyOrder` — what the order of the keys must satisfy: it is transitive, and of two different
  keys one is below the other;
* `OrderedMap` — the entries in strictly ascending order of their keys;
* `OrderedMap.insert` — gives a key a value, in place of any it had;
* `OrderedMap.get?`, `OrderedMap.filter`, `OrderedMap.erase`, `OrderedMap.values` — looking up and
  thinning out;
* `OrderedMap.get?_insert_self`, `OrderedMap.get?_insert_of_ne` — what is looked up after `insert`.
-/

/-- The order of keys: transitive, and any two different keys are comparable. -/
class KeyOrder (κ : Type) [LT κ] : Prop where
  /-- The order is transitive. -/
  trans : ∀ {a b c : κ}, a < b → b < c → a < c
  /-- Of two different keys one is below the other. -/
  connected : ∀ {a b : κ}, ¬ a < b → a ≠ b → b < a

instance : KeyOrder Nat where
  trans := Nat.lt_trans
  connected hab hne := by omega

instance : KeyOrder (List UInt8) where
  trans := List.lt_trans
  connected hab hne := Decidable.byContradiction fun hba =>
    hne (List.le_antisymm (List.not_lt.1 hba) (List.not_lt.1 hab))

/-- A map whose entries are in strictly ascending order of their keys. -/
structure OrderedMap (κ α : Type) [LT κ] where
  /-- The entries. -/
  entries : List (κ × α)
  /-- Each key is below the next. -/
  ascending : entries.Pairwise (fun x y => x.1 < y.1)

namespace OrderedMap

variable {κ α : Type} [LT κ] [DecidableLT κ] [DecidableEq κ]

/-- The map without entries. -/
def empty : OrderedMap κ α := ⟨[], .nil⟩

instance : Inhabited (OrderedMap κ α) := ⟨empty⟩
instance : EmptyCollection (OrderedMap κ α) := ⟨empty⟩

/-- Puts an entry where its key belongs in a list of entries, in place of one with that key. -/
def insertEntry (key : κ) (value : α) : List (κ × α) → List (κ × α)
  | [] => [(key, value)]
  | entry :: rest =>
    -- The first entry above the key is where the key belongs.
    if key < entry.1 then (key, value) :: entry :: rest
    else if key = entry.1 then (key, value) :: rest
    else entry :: insertEntry key value rest

theorem mem_insertEntry {key : κ} {value : α} {entries : List (κ × α)} {x : κ × α}
    (h : x ∈ insertEntry key value entries) : x = (key, value) ∨ x ∈ entries := by
  induction entries with
  | nil => simpa [insertEntry] using h
  | cons entry rest ih =>
    unfold insertEntry at h
    split at h
    · simpa using h
    · split at h
      · rcases List.mem_cons.1 h with h | h
        · exact .inl h
        · exact .inr (List.mem_cons_of_mem _ h)
      · rcases List.mem_cons.1 h with h | h
        · exact .inr (h ▸ List.mem_cons_self)
        · exact (ih h).imp id (List.mem_cons_of_mem _)

theorem ascending_insertEntry [KeyOrder κ] {key : κ} {value : α} {entries : List (κ × α)}
    (h : entries.Pairwise (fun x y => x.1 < y.1)) :
    (insertEntry key value entries).Pairwise (fun x y => x.1 < y.1) := by
  induction entries with
  | nil => exact List.pairwise_singleton ..
  | cons entry rest ih =>
    obtain ⟨below, ordered⟩ := List.pairwise_cons.1 h
    unfold insertEntry
    split
    · rename_i less
      refine List.pairwise_cons.2 ⟨fun x hx => ?_, h⟩
      rcases List.mem_cons.1 hx with rfl | hx
      · exact less
      · exact KeyOrder.trans less (below x hx)
    · split
      · rename_i same
        exact List.pairwise_cons.2 ⟨fun x hx => same ▸ below x hx, ordered⟩
      · rename_i less different
        refine List.pairwise_cons.2 ⟨fun x hx => ?_, ih ordered⟩
        rcases mem_insertEntry hx with rfl | hx
        · exact KeyOrder.connected less different
        · exact below x hx

theorem find?_insertEntry_self (key : κ) (value : α) (entries : List (κ × α)) :
    (insertEntry key value entries).find? (·.1 = key) = some (key, value) := by
  induction entries with
  | nil => simp [insertEntry]
  | cons entry rest ih =>
    unfold insertEntry
    split
    · simp
    · split
      · simp
      · rename_i different
        rw [List.find?_cons_of_neg (by simpa using Ne.symm different), ih]

theorem find?_insertEntry_of_ne {key other : κ} (h : other ≠ key) (value : α)
    (entries : List (κ × α)) :
    (insertEntry key value entries).find? (·.1 = other) = entries.find? (·.1 = other) := by
  have passed : ∀ entries : List (κ × α),
      ((key, value) :: entries).find? (·.1 = other) = entries.find? (·.1 = other) := fun _ =>
    List.find?_cons_of_neg (by simpa using Ne.symm h)
  induction entries with
  | nil => exact passed []
  | cons entry rest ih =>
    unfold insertEntry
    split
    · exact passed _
    · split
      · rename_i same
        rw [passed, List.find?_cons_of_neg (by simpa [← same] using Ne.symm h)]
      · rw [List.find?_cons, List.find?_cons, ih]

/-- Gives a key a value, in place of any it had. -/
def insert [KeyOrder κ] (map : OrderedMap κ α) (key : κ) (value : α) : OrderedMap κ α :=
  ⟨insertEntry key value map.entries, ascending_insertEntry map.ascending⟩

/-- The value of a key. -/
def get? (map : OrderedMap κ α) (key : κ) : Option α :=
  (map.entries.find? (·.1 = key)).map (·.2)

/-- A key has the value that it was given last. -/
theorem get?_insert_self [KeyOrder κ] (map : OrderedMap κ α) (key : κ) (value : α) :
    (map.insert key value).get? key = some value := by
  show ((insertEntry key value map.entries).find? (·.1 = key)).map (·.2) = some value
  rw [find?_insertEntry_self, Option.map_some]

/-- The other keys keep their values. -/
theorem get?_insert_of_ne [KeyOrder κ] {key other : κ} (h : other ≠ key) (map : OrderedMap κ α)
    (value : α) : (map.insert key value).get? other = map.get? other := by
  show ((insertEntry key value map.entries).find? (·.1 = other)).map (·.2) = map.get? other
  rw [find?_insertEntry_of_ne h, get?]

/-- The entries that pass a test. -/
def filter (map : OrderedMap κ α) (keep : κ → α → Bool) : OrderedMap κ α :=
  ⟨map.entries.filter (fun entry => keep entry.1 entry.2), map.ascending.filter _⟩

/-- The map without a key. -/
def erase (map : OrderedMap κ α) (key : κ) : OrderedMap κ α :=
  map.filter fun other _ => decide (other ≠ key)

/-- The values in the order of their keys. -/
def values (map : OrderedMap κ α) : List α := map.entries.map (·.2)

/-- The map of a list of assignments, made one after the other. -/
def ofList [KeyOrder κ] (assignments : List (κ × α)) : OrderedMap κ α :=
  assignments.foldl (fun map entry => map.insert entry.1 entry.2) empty

end OrderedMap

end CommandShell
