import CommandShell.Proofs.LossyReading
import CommandShell.Proofs.OneLineTexts
import CommandShell.Proofs.ScriptRun

namespace CommandShell

/-!
# DecodedLines — lines read as text before or after they are taken apart

A script is taken apart at its newlines, and then each line is read as text, whatever its bytes are.
A newline is a character wherever it stands, and nothing that is broken goes on over it. So it makes
no difference if the script is read first and the text is taken apart then:

* `textLines` — the lines of a text;
* `Bytes.line_induction` — byte strings are one line, or a line and what comes after its newline;
* `Bytes.splitOn_decodeLossy`, `Bytes.textLines_toStringLossy` — taking apart and reading, in either
  order;
* `Bytes.toString?_of_mem_lines` — the lines of a script that is text are text;
* `Shell.runTexts` — running lines of text;
* `Shell.runs_decoded_lines` — which texts a script executes.
-/

/-- The lines of a text: the pieces between newlines, where nothing follows a final newline and the
    empty text has no line at all. -/
def textLines (text : String) : List String :=
  let pieces := text.toList.splitOn '\n'
  (if pieces.getLast? = some [] then pieces.dropLast else pieces).map String.ofList

namespace Bytes

open Utf8

variable {bs : Bytes} {text : String}

/-! ### Pieces of bytes and of characters -/

theorem decodeLossy_eq_nil_iff : decodeLossy bs = [] ↔ bs = [] := by
  cases bs with
  | nil => simp
  | cons b rest => simp [decodeLossy_cons]

/-- A byte string is one line without a newline, or such a line, a newline and what comes after. -/
@[elab_as_elim]
theorem line_induction {motive : Bytes → Prop} (line : ∀ bs, newline ∉ bs → motive bs)
    (append : ∀ front back, newline ∉ front → motive back → motive (front ++ newline :: back))
    (bs : Bytes) : motive bs := by
  rcases newline_cases bs with hline | ⟨front, back, hfront, hsplit⟩
  · exact line bs hline
  · have shorter : back.length < bs.length := by
      rw [hsplit, List.length_append, List.length_cons]
      omega
    rw [hsplit]
    exact append front back hfront (line_induction line append back)
termination_by bs.length

/-- **Pieces.** What is read between two newlines is what the bytes between them are read as. -/
theorem splitOn_decodeLossy (bs : Bytes) :
    (decodeLossy bs).splitOn '\n' = (splitOn newline bs).map decodeLossy := by
  induction bs using line_induction with
  | line bs hline =>
    rw [splitOn_of_not_mem hline, List.map_singleton]
    exact List.splitOn_eq_singleton (newline_not_mem_decodeLossy hline)
  | append front back hfront ih =>
    -- The newline is read as such, and reading begins anew after it.
    have hread : decodeLossy (front ++ newline :: back)
        = decodeLossy front ++ '\n' :: decodeLossy back := decodeLossy_append_cons (by decide) ..
    have hpiece := List.splitOn_eq_singleton (newline_not_mem_decodeLossy hfront)
    rw [hread, List.splitOn_append_cons_self, hpiece, ih, splitOn_append_cons,
      splitOn_of_not_mem hfront, List.singleton_append, List.singleton_append, List.map_cons]

/-- **Lines.** The lines of a script, read as text, are those of the script read as text. -/
theorem textLines_toStringLossy (bs : Bytes) :
    textLines bs.toStringLossy = (lines bs).map toStringLossy := by
  obtain ⟨complete, last, hsplit⟩ := exists_splitOn_eq_concat newline bs
  have hpieces : bs.toStringLossy.toList.splitOn '\n'
      = complete.map decodeLossy ++ [decodeLossy last] := by
    rw [toStringLossy, String.toList_ofList, splitOn_decodeLossy, hsplit, List.map_append,
      List.map_singleton]
  rw [lines_of_splitOn hsplit, textLines, hpieces]
  simp only [List.getLast?_concat, List.dropLast_concat, Option.some.injEq, decodeLossy_eq_nil_iff]
  -- Nothing follows a final newline, be it read as text or not.
  split_ifs with hlast
  · rw [List.append_nil, List.map_map]
    rfl
  · rw [← List.map_singleton, ← List.map_append, List.map_map]
    rfl

/-! ### Scripts that are text -/

/-- What is text is read as it is. -/
theorem toStringLossy_of_toString? (h : bs.toString? = some text) : bs.toStringLossy = text := by
  rw [toString?_eq_some_iff.1 h, toStringLossy_ofString]

/-- The pieces of a text are texts. -/
theorem decode?_of_mem_splitOn {cs : List Char} (h : decode? bs = some cs) :
    ∀ piece ∈ splitOn newline bs, ∃ cs', decode? piece = some cs' := by
  induction bs using line_induction generalizing cs with
  | line bs hline =>
    rw [splitOn_of_not_mem hline]
    exact List.forall_mem_singleton.2 ⟨cs, h⟩
  | append front back hfront ih =>
    obtain ⟨csFront, csBack, hread, hback, -⟩ := decode?_append_newline h
    rw [splitOn_append_cons, splitOn_of_not_mem hfront, List.singleton_append]
    exact List.forall_mem_cons.2 ⟨⟨csFront, hread⟩, ih hback⟩

/-- Every line of a text is text, and is read as it is. -/
theorem toString?_of_mem_lines (h : bs.toString? = some text) :
    ∀ line ∈ lines bs, line.toString? = some line.toStringLossy := by
  intro line hline
  obtain ⟨cs, hcs, -⟩ := Option.map_eq_some_iff.1 h
  obtain ⟨complete, last, hsplit⟩ := exists_splitOn_eq_concat newline bs
  have hpiece : line ∈ splitOn newline bs := by
    rw [lines_of_splitOn hsplit] at hline
    rw [hsplit]
    split_ifs at hline
    · exact List.mem_append_left _ (by simpa using hline)
    · exact hline
  obtain ⟨cs', hcs'⟩ := decode?_of_mem_splitOn hcs line hpiece
  rw [toString?, hcs', toStringLossy_of_decode? hcs', Option.map_some]

end Bytes

/-! ### Running lines of text -/

namespace Shell

/-- Runs lines of text until one ends the session, as `runLines` runs lines of bytes. -/
def runTexts (sh : Shell) : List String → Option (Except Failure Unit) × Shell
  | [] => (none, sh)
  | text :: rest =>
    match settle (sh.reap.1.execute text {}) with
    | (.error failure, sh) => (some (.error failure), sh)
    | (.ok (), sh) => if sh.stops then (some (.ok ()), sh) else sh.runTexts rest

/-- Lines are run as the texts that they are read as. -/
theorem runLines_eq_runTexts (sh : Shell) (lines : List Bytes) :
    sh.runLines lines = sh.runTexts (lines.map Bytes.toStringLossy) := by
  induction lines generalizing sh with
  | nil => rfl
  | cons line rest ih =>
    -- Both run the first line alike, and go on or stop for the same reason.
    rw [List.map_cons, runLines, runTexts, runLine]
    rcases settle (sh.reap.1.execute line.toStringLossy {}) with ⟨failure | ⟨⟩, after⟩
    · rfl
    · show (if after.stops then _ else after.runLines rest)
        = if after.stops then _ else after.runTexts (rest.map Bytes.toStringLossy)
      rw [ih]

/-- **Scripts.** The texts that running a script executes, until one ends the session, are the lines
    of the script, each read as text. They are as well the lines of the text that the whole script
    is read as. If the script is text, they are the lines of that text, and each is what the bytes
    of the line spell.

    Reading goes from left to right: a character is read where its bytes stand, and elsewhere a
    replacement for the longest run of bytes that begins a character, or for one byte if that begins
    none. -/
theorem runs_decoded_lines :
    (∀ (sh : Shell) (script : Bytes), sh.runScript { pending := script }
      = ((sh.runTexts ((Bytes.lines script).map Bytes.toStringLossy)).1.getD (.ok ()),
          (sh.runTexts ((Bytes.lines script).map Bytes.toStringLossy)).2)) ∧
    (∀ script : Bytes,
      (Bytes.lines script).map Bytes.toStringLossy = textLines script.toStringLossy) ∧
    (∀ (script : Bytes) (text : String), script.toString? = some text →
      (Bytes.lines script).map Bytes.toStringLossy = textLines text ∧
      (Bytes.lines script).map Bytes.toString? = (textLines text).map some) ∧
    (∀ (bs : Bytes) (cs : List Char), Utf8.Reads bs cs ↔ bs.toStringLossy = String.ofList cs) := by
  refine ⟨fun sh script => ?_, fun script => (Bytes.textLines_toStringLossy script).symm,
    fun script text htext => ?_, fun bs cs => ?_⟩
  · rw [runScript_eq, runLines_eq_runTexts]
  · have hlines := Bytes.textLines_toStringLossy script
    rw [Bytes.toStringLossy_of_toString? htext] at hlines
    refine ⟨hlines.symm, ?_⟩
    rw [hlines, List.map_map]
    exact List.map_congr_left (Bytes.toString?_of_mem_lines htext)
  · rw [Utf8.reads_iff, Bytes.toStringLossy, String.ofList_inj]

end Shell

namespace Sample

/-- A line that breaks off within a character, one that goes on with what the first one lacks, and a
    script that is text. -/
theorem broken_lines :
    (Bytes.lines [99, 195, 10, 169, 10]).map Bytes.toStringLossy = ["c\uFFFD", "\uFFFD"] ∧
    Bytes.toString? [99, 195, 169, 10, 97] = some "c\u00E9\na" ∧
    (Bytes.lines [99, 195, 169, 10, 97]).map Bytes.toString? = [some "c\u00E9", some "a"] := by
  have htext : Bytes.toString? [99, 195, 169, 10, 97] = some "c\u00E9\na" := by decide +kernel
  refine ⟨?_, htext, ?_⟩
  · rw [Shell.runs_decoded_lines.2.1]
    decide +kernel
  · rw [(Shell.runs_decoded_lines.2.2.1 _ _ htext).2]
    decide +kernel

end Sample

end CommandShell
