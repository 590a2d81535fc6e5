import CommandShell.Proofs.KeyedEntries
import CommandShell.Toml.Document
import Mathlib.Tactic.Common

namespace CommandShell

/-!
# DistinctKeys — no table of a document has a key twice

What a document says under a key is a matter of its entries alone, and not of their order, because
no table of it has two entries with one key:

* `Toml.Distinct`, `Toml.Node.WellKeyed` — that this is so of the entries of a table, and of every
  table in a value;
* `Toml.Distinct.lookup_eq_some_iff` — what is looked up is then what is there;
* `Toml.Distinct.descend` — changing a table somewhere in a document keeps it, if the change does;
  `Toml.Distinct.assign`, `Toml.Distinct.openTable`, `Toml.Distinct.openElement` are the changes;
* `Toml.values_wellKeyed` — it is so of the values that are read;
* `Toml.Draft.take_distinct`, `Toml.foldlM_take_distinct` — one statement keeps it, and so do
  all;
* `Toml.parse?_distinct` — hence it is so of every document.
-/

namespace Toml

mutual

/-- No table in the value has a key twice. -/
inductive Node.WellKeyed : Node → Prop
  /-- There is none in a string. -/
  | text (content : String) : Node.WellKeyed (.text content)
  /-- There is none in an integer. -/
  | integer (number : Int) : Node.WellKeyed (.integer number)
  /-- There is none in another number. -/
  | float (digits : String) : Node.WellKeyed (.float digits)
  /-- There is none in a truth value. -/
  | boolean (truth : Bool) : Node.WellKeyed (.boolean truth)
  /-- There is none in a date or time. -/
  | moment (digits : String) : Node.WellKeyed (.moment digits)
  /-- An array may have some in its items. -/
  | array {items : List Node} : (∀ item ∈ items, Node.WellKeyed item) →
      Node.WellKeyed (.array items)
  /-- A table is one, and may have some in its values. -/
  | table {origin : Origin} {entries : Entries} : Distinct entries →
      Node.WellKeyed (.table origin entries)
  /-- So is every element of an array of tables. -/
  | tables {elements : List Entries} : (∀ entries ∈ elements, Distinct entries) →
      Node.WellKeyed (.tables elements)

/-- No two entries have one key, and no table in their values has a key twice. -/
inductive Distinct : Entries → Prop
  /-- The keys are distinct, and the values are such. -/
  | intro {entries : Entries} : (entries.map (·.1)).Nodup →
      (∀ entry ∈ entries, Node.WellKeyed entry.2) → Distinct entries

end

variable {entries inner changed : Entries} {key : String} {node : Node} {origin : Origin}
  {path : List String}

theorem lookup_eq_none_iff : lookup entries key = none ↔ key ∉ entries.map (·.1) :=
  KeyedEntries.find_eq_none_iff

/-- What is looked up is an entry. -/
theorem mem_of_lookup (h : lookup entries key = some node) : (key, node) ∈ entries :=
  KeyedEntries.mem_of_find h

theorem mem_put {entry : String × Node} (h : entry ∈ put entries key node) :
    entry = (key, node) ∨ entry ∈ entries := by
  induction entries with
  | nil => exact .inl (List.mem_singleton.1 h)
  | cons first rest ih =>
    rw [put] at h
    split_ifs at h with hkey
    · exact (List.mem_cons.1 h).imp_right (List.mem_cons_of_mem _)
    · rcases List.mem_cons.1 h with rfl | hrest
      · exact .inr List.mem_cons_self
      · exact (ih hrest).imp_right (List.mem_cons_of_mem _)

/-- A key that is put is a new one at the end, or was there. -/
theorem map_fst_put (entries : Entries) (key : String) (node : Node) :
    (put entries key node).map (·.1)
      = if key ∈ entries.map (·.1) then entries.map (·.1) else entries.map (·.1) ++ [key] := by
  induction entries with
  | nil => rfl
  | cons first rest ih =>
    rw [put]
    by_cases hkey : first.1 = key
    · simp [hkey]
    · rw [if_neg hkey, List.map_cons, ih, List.map_cons]
      by_cases hmem : key ∈ rest.map (·.1)
      · rw [if_pos hmem, if_pos (List.mem_cons_of_mem _ hmem)]
      · rw [if_neg hmem, if_neg (by simp [Ne.symm hkey, hmem]), List.cons_append]

namespace Distinct

theorem nil : Distinct [] := ⟨List.nodup_nil, by simp⟩

theorem nodup (h : Distinct entries) : (entries.map (·.1)).Nodup := by
  obtain ⟨hnodup, -⟩ := h
  exact hnodup

theorem wellKeyed (h : Distinct entries) (hmem : (key, node) ∈ entries) : node.WellKeyed := by
  obtain ⟨-, hvalues⟩ := h
  exact hvalues _ hmem

/-- What is looked up is what is there. -/
theorem lookup_eq_some_iff (h : Distinct entries) :
    lookup entries key = some node ↔ (key, node) ∈ entries :=
  KeyedEntries.find_eq_some_iff h.nodup

/-- An entry with a new key is added. -/
theorem concat (h : Distinct entries) (hfree : lookup entries key = none)
    (hnode : node.WellKeyed) : Distinct (entries ++ [(key, node)]) := by
  refine ⟨?_, ?_⟩
  · rw [List.map_append, List.map_singleton, ← List.concat_eq_append]
    exact h.nodup.concat (lookup_eq_none_iff.1 hfree)
  · obtain ⟨-, hvalues⟩ := h
    exact List.forall_mem_append.2 ⟨hvalues, List.forall_mem_singleton.2 hnode⟩

/-- A key gets a value. -/
theorem put (h : Distinct entries) (key : String) (hnode : node.WellKeyed) :
    Distinct (put entries key node) := by
  refine ⟨?_, fun entry hmem => ?_⟩
  · rw [map_fst_put]
    split_ifs with hmem
    · exact h.nodup
    · rw [← List.concat_eq_append]
      exact h.nodup.concat hmem
  · rcases mem_put hmem with rfl | hold
    · exact hnode
    · exact h.wellKeyed hold

/-! ### Changes in a document -/

variable {dotted : Bool} {change : Origin → Entries → Option Entries}

/-- **Descending** to a table and changing it keeps keys distinct, if the change does. -/
theorem descend (hchange : ∀ {origin inner changed}, Distinct inner →
      change origin inner = some changed → Distinct changed)
    (h : Distinct entries) (hdescend : descend dotted change path origin entries = some changed) :
    Distinct changed := by
  -- A table on the way is put back under its key, which it had, so only new tables add keys.
  fun_induction Toml.descend dotted change path origin entries generalizing changed with
  | case1 origin entries => exact hchange h hdescend
  | case2 key rest origin entries hnone made =>
    rename_i ih
    obtain ⟨inner, hinner, rfl⟩ := Option.map_eq_some_iff.1 hdescend
    exact h.put key (.table (ih .nil hinner))
  | case3 => cases hdescend
  | case4 key rest origin entries origin' inner hsome hopen ih =>
    obtain ⟨inner', hinner, rfl⟩ := Option.map_eq_some_iff.1 hdescend
    cases h.wellKeyed (mem_of_lookup hsome) with
    | table hdistinct => exact h.put key (.table (ih hdistinct hinner))
  | case5 => cases hdescend
  | case6 key rest origin entries elements hsome last hlast ih =>
    obtain ⟨inner', hinner, rfl⟩ := Option.map_eq_some_iff.1 hdescend
    cases h.wellKeyed (mem_of_lookup hsome) with
    | tables hdistinct =>
      refine h.put key (.tables (List.forall_mem_append.2 ⟨fun element hmem => ?_, ?_⟩))
      · exact hdistinct element (List.dropLast_subset _ hmem)
      · exact List.forall_mem_singleton.2 (ih (hdistinct last (List.mem_of_getLast? hlast)) hinner)
  | case7 => cases hdescend

/-- A dotted key is given a value. -/
theorem assign (h : Distinct entries) (hnode : node.WellKeyed)
    (hassign : assign path key node origin entries = some changed) : Distinct changed := by
  refine descend (fun {origin inner changed} hinner hchange => ?_) h hassign
  split_ifs at hchange with horigin hfree
  cases hchange
  exact hinner.concat (by simpa using hfree) hnode

/-- A table is begun. -/
theorem openTable (h : Distinct entries) (hopen : openTable path key entries = some changed) :
    Distinct changed := by
  refine descend (fun {origin inner changed} hinner hchange => ?_) h hopen
  split at hchange
  · rename_i hfree
    cases hchange
    exact hinner.concat hfree (.table .nil)
  · rename_i implied hsome
    cases hchange
    cases hinner.wellKeyed (mem_of_lookup hsome) with
    | table hdistinct => exact hinner.put key (.table hdistinct)
  · cases hchange

/-- An element of an array of tables is begun. -/
theorem openElement (h : Distinct entries) (hopen : openElement path key entries = some changed) :
    Distinct changed := by
  refine descend (fun {origin inner changed} hinner hchange => ?_) h hopen
  split at hchange
  · rename_i hfree
    cases hchange
    exact hinner.concat hfree (.tables (List.forall_mem_singleton.2 .nil))
  · rename_i elements hsome
    cases hchange
    cases hinner.wellKeyed (mem_of_lookup hsome) with
    | tables hdistinct =>
      exact hinner.put key (.tables
        (List.forall_mem_append.2 ⟨hdistinct, List.forall_mem_singleton.2 .nil⟩))
  · cases hchange

end Distinct

/-! ### Values -/

theorem scalar?_wellKeyed {cs : List Char} (h : scalar? cs = some node) : node.WellKeyed := by
  unfold scalar? at h
  split_ifs at h
  · cases h
    exact .boolean _
  · cases h
    exact .boolean _
  · cases h
    exact .moment _
  · split at h
    · cases h
      exact .integer _
    · cases h
      exact .float _
  · split at h
    · cases h
      exact .integer _
    · cases h

theorem bareValue?_wellKeyed {cs rest : List Char} (h : bareValue? cs = some (node, rest)) :
    node.WellKeyed := by
  obtain ⟨node, hscalar, hnode⟩ := Option.map_eq_some_iff.1 h
  cases hnode
  exact scalar?_wellKeyed hscalar

/-- **Values** that are read have no table with a key twice. -/
theorem values_wellKeyed (steps : Nat) :
    (∀ depth cs node rest, value? steps depth cs = some (node, rest) → node.WellKeyed) ∧
    (∀ depth done cs node rest, (∀ item ∈ done, Node.WellKeyed item) →
      items? steps depth done cs = some (node, rest) → node.WellKeyed) ∧
    (∀ depth entries cs node rest, Distinct entries →
      pairs? steps depth entries cs = some (node, rest) → node.WellKeyed) := by
  -- Values, items and pairs are read by way of each other, so one induction is about all of them.
  induction steps with
  | zero =>
    refine ⟨?_, ?_, ?_⟩
    · intro depth cs node rest h
      rw [value?] at h
      cases h
    · intro depth done cs node rest hdone h
      rw [items?] at h
      cases h
    · intro depth entries cs node rest hentries h
      rw [pairs?] at h
      cases h
  | succ steps ih =>
    obtain ⟨hvalue, hitems, hpairs⟩ := ih
    refine ⟨?_, ?_, ?_⟩
    · intro depth cs node rest h
      unfold value? at h
      split at h
      · obtain ⟨⟨content, rest⟩, -, htext⟩ := Option.map_eq_some_iff.1 h
        cases htext
        exact .text content
      · obtain ⟨⟨content, rest⟩, -, htext⟩ := Option.map_eq_some_iff.1 h
        cases htext
        exact .text content
      · split_ifs at h
        exact hitems _ _ _ _ _ (by simp) h
      · split_ifs at h
        split at h
        · cases h
          exact .table .nil
        · exact hpairs _ _ _ _ _ .nil h
      · exact bareValue?_wellKeyed h
    · intro depth done cs node rest hdone h
      unfold items? at h
      split at h
      · cases h
        exact .array (by simpa using hdone)
      · split at h
        · cases h
        · rename_i item rest' hitem
          have hall : ∀ item' ∈ item :: done, Node.WellKeyed item' :=
            List.forall_mem_cons.2 ⟨hvalue _ _ _ _ hitem, hdone⟩
          split at h
          · exact hitems _ _ _ _ _ hall h
          · cases h
            exact .array fun item' hmem => hall item' (List.mem_reverse.1 hmem)
          · cases h
    · intro depth entries cs node rest hentries h
      unfold pairs? at h
      split at h
      · split at h
        · cases h
        · rename_i value rest' hvalue'
          split at h
          · cases h
          · rename_i entries' hassign
            have hentries' := hentries.assign (hvalue _ _ _ _ hvalue') hassign
            split at h
            · exact hpairs _ _ _ _ _ hentries' h
            · cases h
              exact .table hentries'
            · cases h
      · cases h

/-! ### Documents -/

/-- No table in the value that a statement gives has a key twice. -/
def Statement.WellKeyed : Statement → Prop
  | .assignment _ _ node => node.WellKeyed
  | _ => True

theorem statement?_wellKeyed {cs rest : List Char} {statement : Statement}
    (h : statement? cs = some (statement, rest)) : statement.WellKeyed := by
  unfold statement? at h
  split at h
  · split at h <;> cases h
    trivial
  · split at h <;> cases h
    trivial
  · split at h
    · obtain ⟨⟨node, rest'⟩, hvalue, hstatement⟩ := Option.map_eq_some_iff.1 h
      cases hstatement
      exact (values_wellKeyed _).1 _ _ _ _ hvalue
    · cases h

theorem statementsFrom_wellKeyed {lines : Nat} {cs : List Char} {statements : List Statement}
    (h : statementsFrom lines cs = some statements) :
    ∀ statement ∈ statements, statement.WellKeyed := by
  fun_induction statementsFrom lines cs generalizing statements with
  | case1 | case3 =>
    cases h
    simp
  | case2 | case5 | case6 => cases h
  | case4 lines cs hnot rest htrivia ih => exact ih h
  | case7 lines cs hnot htrivia statement rest hstatement rest' hend ih =>
    obtain ⟨others, hothers, rfl⟩ := Option.map_eq_some_iff.1 h
    exact List.forall_mem_cons.2 ⟨statement?_wellKeyed hstatement, ih hothers⟩

/-- **One statement** keeps the keys of a document distinct. -/
theorem Draft.take_distinct {draft draft' : Draft} {statement : Statement}
    (h : Distinct draft.entries) (hstatement : statement.WellKeyed)
    (htake : draft.take statement = some draft') : Distinct draft'.entries := by
  cases statement with
  | header path key =>
    obtain ⟨entries, hopen, rfl⟩ := Option.map_eq_some_iff.1 htake
    exact h.openTable hopen
  | element path key =>
    obtain ⟨entries, hopen, rfl⟩ := Option.map_eq_some_iff.1 htake
    exact h.openElement hopen
  | assignment path key node =>
    obtain ⟨entries, hassign, rfl⟩ := Option.map_eq_some_iff.1 htake
    exact h.descend (fun hinner hchange => hinner.assign hstatement hchange) hassign

/-- **All statements** do. -/
theorem foldlM_take_distinct {statements : List Statement} {draft draft' : Draft}
    (h : Distinct draft.entries) (hstatements : ∀ statement ∈ statements, statement.WellKeyed)
    (hrun : statements.foldlM Draft.take draft = some draft') : Distinct draft'.entries := by
  induction statements generalizing draft with
  | nil =>
    cases hrun
    exact h
  | cons statement rest ih =>
    obtain ⟨hstatement, hrest⟩ := List.forall_mem_cons.1 hstatements
    rw [List.foldlM_cons] at hrun
    obtain ⟨next, htake, hrun⟩ := Option.bind_eq_some_iff.1 hrun
    exact ih (Draft.take_distinct h hstatement htake) hrest hrun

/-- **Documents.** No table of a document has a key twice. -/
theorem parse?_distinct {text : String} {document : Entries} (h : parse? text = some document) :
    Distinct document := by
  obtain ⟨statements, hread, hrun⟩ := Option.bind_eq_some_iff.1 h
  obtain ⟨draft, hfold, rfl⟩ := Option.map_eq_some_iff.1 hrun
  exact foldlM_take_distinct .nil (statementsFrom_wellKeyed hread) hfold

end Toml

end CommandShell
