import CommandShell.Proofs.ScriptRun
import CommandShell.Proofs.SpacedWords
import CommandShell.Proofs.TextLines
import Mathlib.Data.List.Forall2
import Mathlib.Logic.Relation

namespace CommandShell

/-!
# SpacedScripts — scripts whose lines are spaced differently

Spaces and carriage returns are bytes that are characters of their own and delimiters, so a line of
bytes is taken apart on both sides of each, whether the rest of it is text or not. Where there is
one, or at an end of the line, further ones change none of its words:

* `Respaced` — lines that differ by such bytes only;
* `Respaced.lineWords_eq` — their words are the same;
* `Bytes.withReturns` — a text with a carriage return before every newline;
  `Bytes.splitOn_withReturns` — its lines;
* `Shell.runLines_congr` — lines with the same words are run alike;
* `Shell.runScript_respaced` — scripts that are spaced differently, or whose lines end differently.
-/

/-! ### Padding -/

/-- The byte that may stand before the newline of a line. -/
def Bytes.carriageReturn : UInt8 := 13

/-- The byte is a space or a carriage return. -/
def IsPadding (b : UInt8) : Prop := b = 32 ∨ b = Bytes.carriageReturn

/-- The second line is the first one with a run of padding put in: at one of its ends, or next to
    padding that is there. -/
inductive Padded : Bytes → Bytes → Prop
  /-- At the start. -/
  | start {run line : Bytes} : (∀ b ∈ run, IsPadding b) → Padded line (run ++ line)
  /-- At the end. -/
  | finish {run line : Bytes} : (∀ b ∈ run, IsPadding b) → Padded line (line ++ run)
  /-- Right before padding. -/
  | before {run front back : Bytes} {b : UInt8} : (∀ b ∈ run, IsPadding b) → IsPadding b →
      Padded (front ++ b :: back) (front ++ run ++ b :: back)
  /-- Right after it. -/
  | after {run front back : Bytes} {b : UInt8} : (∀ b ∈ run, IsPadding b) → IsPadding b →
      Padded (front ++ b :: back) (front ++ b :: (run ++ back))

/-- The lines differ by runs of padding only, put in or taken out. -/
def Respaced : Bytes → Bytes → Prop := Relation.EqvGen Padded

/-! ### The words of a line of bytes -/

/-- The words of a line of a script. -/
def lineWords (line : Bytes) : List String := words line.toStringLossy

section

variable {b : UInt8} {run line line' : Bytes}

theorem isDelimiter_of_padding (hb : IsPadding b) : isDelimiter (Char.ofNat b.toNat) = true := by
  rcases hb with rfl | rfl <;> decide

@[simp] theorem lineWords_nil : lineWords [] = [] := by
  simp [lineWords, words, Bytes.toStringLossy, Utf8.decodeLossy, Words.runs]

/-- A line is taken apart on both sides of padding, even where what is before it is no text. -/
theorem lineWords_append_cons (hb : IsPadding b) (front back : Bytes) :
    lineWords (front ++ b :: back) = lineWords front ++ lineWords back := by
  have hascii : b < 0x80 := by
    rcases hb with rfl | rfl <;> decide
  simp only [lineWords, words, Bytes.toStringLossy, String.toList_ofList]
  rw [Utf8.decodeLossy_append_cons hascii, Words.runs_append (isDelimiter_of_padding hb),
    List.map_append]

/-- A run of padding holds no word. -/
theorem lineWords_of_padding (hrun : ∀ b ∈ run, IsPadding b) : lineWords run = [] := by
  induction run with
  | nil => exact lineWords_nil
  | cons b run ih =>
    obtain ⟨hb, hrest⟩ := List.forall_mem_cons.1 hrun
    rw [← List.nil_append (b :: run), lineWords_append_cons hb, ih hrest, lineWords_nil,
      List.append_nil]

theorem lineWords_padding_append (hrun : ∀ b ∈ run, IsPadding b) (line : Bytes) :
    lineWords (run ++ line) = lineWords line := by
  induction run with
  | nil => rfl
  | cons b run ih =>
    obtain ⟨hb, hrest⟩ := List.forall_mem_cons.1 hrun
    have hfront : b :: run ++ line = [] ++ b :: (run ++ line) := rfl
    rw [hfront, lineWords_append_cons hb, ih hrest, lineWords_nil, List.nil_append]

theorem lineWords_append_padding (hrun : ∀ b ∈ run, IsPadding b) (line : Bytes) :
    lineWords (line ++ run) = lineWords line := by
  cases run with
  | nil => rw [List.append_nil]
  | cons b run =>
    obtain ⟨hb, hrest⟩ := List.forall_mem_cons.1 hrun
    rw [lineWords_append_cons hb, lineWords_of_padding hrest, List.append_nil]

/-- Padding that is put in makes no word, and breaks none. -/
theorem Padded.lineWords_eq (h : Padded line line') : lineWords line' = lineWords line := by
  cases h with
  | start hrun => exact lineWords_padding_append hrun _
  | finish hrun => exact lineWords_append_padding hrun _
  | before hrun hb =>
    rw [lineWords_append_cons hb, lineWords_append_cons hb, lineWords_append_padding hrun]
  | after hrun hb =>
    rw [lineWords_append_cons hb, lineWords_append_cons hb, lineWords_padding_append hrun]

/-- **Spacing.** Lines that differ by padding only have the same words. -/
theorem Respaced.lineWords_eq (h : Respaced line line') : lineWords line = lineWords line' := by
  induction h with
  | rel _ _ hpadded => exact hpadded.lineWords_eq.symm
  | refl => rfl
  | symm _ _ _ ih => exact ih.symm
  | trans _ _ _ _ _ ih ih' => exact ih.trans ih'

end

/-! ### The ends of lines -/

namespace Bytes

variable {bs last : Bytes} {complete : List Bytes}

/-- The byte string with a carriage return before every newline. -/
def withReturns (bs : Bytes) : Bytes :=
  bs.flatMap fun b => if b = newline then [carriageReturn, newline] else [b]

theorem withReturns_of_not_mem (h : newline ∉ bs) : withReturns bs = bs := by
  induction bs with
  | nil => rfl
  | cons b rest ih =>
    obtain ⟨hb, hrest⟩ := not_or.1 (List.mem_cons.not.1 h)
    rw [withReturns, List.flatMap_cons, if_neg (Ne.symm hb), ← withReturns, ih hrest]
    rfl

theorem withReturns_append (front back : Bytes) :
    withReturns (front ++ back) = withReturns front ++ withReturns back :=
  List.flatMap_append

/-- Lines that are closed by newlines have a carriage return at their ends. -/
theorem withReturns_closed (h : ∀ line ∈ complete, newline ∉ line) :
    withReturns (closed newline complete)
      = closed newline (complete.map (· ++ [carriageReturn])) := by
  induction complete with
  | nil => rfl
  | cons line others ih =>
    obtain ⟨hline, hothers⟩ := List.forall_mem_cons.1 h
    have hend : withReturns (newline :: closed newline others)
        = carriageReturn :: newline :: withReturns (closed newline others) := rfl
    rw [closed_cons, withReturns_append, hend, withReturns_of_not_mem hline, ih hothers,
      List.map_cons, closed_cons, List.append_assoc]
    rfl

/-- **Line ends.** Every piece but the last has a carriage return at its end. -/
theorem splitOn_withReturns (h : splitOn newline bs = complete ++ [last]) :
    splitOn newline (withReturns bs) = complete.map (· ++ [carriageReturn]) ++ [last] := by
  have hclean : ∀ piece ∈ complete ++ [last], newline ∉ piece := fun piece hpiece =>
    not_mem_of_mem_splitOn (h ▸ hpiece)
  have hcomplete : ∀ piece ∈ complete, newline ∉ piece := fun piece hpiece =>
    hclean piece (List.mem_append_left _ hpiece)
  have hlast : newline ∉ last := hclean last (by simp)
  have hreturned : ∀ piece ∈ complete.map (· ++ [carriageReturn]), newline ∉ piece := by
    intro piece hpiece
    obtain ⟨line, hline, rfl⟩ := List.mem_map.1 hpiece
    simpa [newline, carriageReturn] using hcomplete line hline
  rw [eq_closed_append h, withReturns_append, withReturns_closed hcomplete,
    withReturns_of_not_mem hlast, splitOn_closed_append hreturned, splitOn_of_not_mem hlast]

end Bytes

namespace Respaced

variable {line : Bytes} {complete : List Bytes}

/-- A carriage return at the end of a line is padding. -/
theorem carriageReturn (line : Bytes) : Respaced line (line ++ [Bytes.carriageReturn]) :=
  .rel _ _ (.finish (by simp [IsPadding]))

/-- So is one at the end of each of several lines. -/
theorem carriageReturns (complete : List Bytes) :
    List.Forall₂ Respaced complete (complete.map (· ++ [Bytes.carriageReturn])) := by
  rw [List.forall₂_map_right_iff, List.forall₂_same]
  exact fun line _ => carriageReturn line

end Respaced

/-! ### Running scripts -/

namespace Shell

/-- The lines of a text with carriage returns differ from those of the text by padding only, and
    the same failure stands after them. -/
theorem linesOf_withReturns (script : Supply) :
    List.Forall₂ Respaced (linesOf script).1
        (linesOf { script with pending := Bytes.withReturns script.pending }).1 ∧
      (linesOf { script with pending := Bytes.withReturns script.pending }).2
        = (linesOf script).2 := by
  obtain ⟨pending, failure⟩ := script
  obtain ⟨complete, last, hsplit⟩ := Bytes.exists_splitOn_eq_concat Bytes.newline pending
  have hreturns := Bytes.splitOn_withReturns hsplit
  cases failure with
  | none =>
    unfold linesOf
    dsimp only
    rw [Bytes.lines_of_splitOn hsplit, Bytes.lines_of_splitOn hreturns]
    -- The last line has no newline after it, so it stays as it is.
    refine ⟨List.rel_append (Respaced.carriageReturns complete) ?_, rfl⟩
    exact List.forall₂_same.2 fun line _ => Relation.EqvGen.refl line
  | some reason =>
    unfold linesOf
    dsimp only
    rw [hsplit, hreturns, List.dropLast_concat, List.dropLast_concat]
    exact ⟨Respaced.carriageReturns complete, rfl⟩

/-- A line of a script is run by its words. -/
theorem runLine_congr {line line' : Bytes} (h : lineWords line = lineWords line') (sh : Shell) :
    sh.runLine line = sh.runLine line' :=
  congrArg settle (execute_congr h sh.reap.1 {})

/-- Lines that have the same words one by one are run alike. -/
theorem runLines_congr {lines lines' : List Bytes}
    (h : List.Forall₂ (fun line line' => lineWords line = lineWords line') lines lines')
    (sh : Shell) : sh.runLines lines = sh.runLines lines' := by
  induction h generalizing sh with
  | nil => rfl
  | cons hline _ ih =>
    rw [runLines, runLines, runLine_congr hline]
    -- Whatever the first line comes to, the others are run on the same shell.
    simp only [ih]

/-- Scripts with the same words on corresponding lines are run alike, if they end alike. -/
theorem runScript_congr {script script' : Supply}
    (hlines : List.Forall₂ Respaced (linesOf script).1 (linesOf script').1)
    (hend : (linesOf script').2 = (linesOf script).2) (sh : Shell) :
    sh.runScript script' = sh.runScript script := by
  have hwords := hlines.imp fun _ _ hline => hline.lineWords_eq
  unfold runScript
  dsimp only
  rw [runLines_congr hwords, hend]

/-- **Scripts.** A script is run in the same way with a carriage return before every newline. More
    generally, two scripts are run in the same way if each line of the one differs from that of the
    other by padding only: at its ends, or next to padding. -/
theorem runScript_respaced :
    (∀ (sh : Shell) (script : Supply),
      sh.runScript { script with pending := Bytes.withReturns script.pending }
        = sh.runScript script) ∧
    (∀ (sh : Shell) (script script' : Supply), script'.failure = script.failure →
      List.Forall₂ Respaced (linesOf script).1 (linesOf script').1 →
      sh.runScript script' = sh.runScript script) := by
  refine ⟨fun sh script => ?_, fun sh script script' hfailure hlines => ?_⟩
  · obtain ⟨hlines, hend⟩ := linesOf_withReturns script
    exact runScript_congr hlines hend sh
  · have hend : (linesOf script').2 = (linesOf script).2 := by
      unfold linesOf
      rw [hfailure]
      cases script.failure <;> rfl
    exact runScript_congr hlines hend sh

end Shell

namespace Sample

/-- Two lines, the first of which ends within a character. -/
def brokenScript : Supply :=
  { pending := Bytes.ofString "echo x" ++ 0xE2 :: 0x82 :: Bytes.ofString "\n echo" }

/-- The same lines with padding within the first one, at its end and at the start of the second. -/
def paddedScript : Supply :=
  { pending := Bytes.ofString "echo \rx" ++ 0xE2 :: 0x82 :: Bytes.ofString "\r\n\r  echo" }

theorem respaced_lines :
    List.Forall₂ Respaced (Shell.linesOf brokenScript).1 (Shell.linesOf paddedScript).1 := by
  have hlines : (Shell.linesOf brokenScript).1
      = [Bytes.ofString "echo" ++ 32 :: 120 :: [0xE2, 0x82], Bytes.ofString " echo"] := by
    decide +kernel
  have hpadded : (Shell.linesOf paddedScript).1
      = [Bytes.ofString "echo" ++ 32 :: ([13] ++ 120 :: [0xE2, 0x82]) ++ [13],
          [13, 32] ++ Bytes.ofString " echo"] := by decide +kernel
  have hinner : Padded (Bytes.ofString "echo" ++ 32 :: 120 :: [0xE2, 0x82])
      (Bytes.ofString "echo" ++ 32 :: ([13] ++ 120 :: [0xE2, 0x82])) :=
    .after (by simp [IsPadding, Bytes.carriageReturn]) (.inl rfl)
  have hstart : Padded (Bytes.ofString " echo") ([13, 32] ++ Bytes.ofString " echo") :=
    .start (by simp [IsPadding, Bytes.carriageReturn])
  rw [hlines, hpadded]
  refine .cons ?_ (.cons (.rel _ _ hstart) .nil)
  exact (Relation.EqvGen.rel _ _ hinner).trans _ _ _ (Respaced.carriageReturn _)

/-- Both are run alike, and the broken character is said in both. -/
theorem padded_script :
    paddedScript.failure = brokenScript.failure ∧
    shell.runScript paddedScript = shell.runScript brokenScript ∧
    shell.runScript { brokenScript with pending := Bytes.withReturns brokenScript.pending }
      = shell.runScript brokenScript ∧
    (shell.runScript brokenScript).2.host.world.terminal.output.written
      = Bytes.ofString "x\uFFFD \n\n" :=
  ⟨rfl, Shell.runScript_respaced.2 shell brokenScript paddedScript rfl respaced_lines,
    Shell.runScript_respaced.1 shell brokenScript, by decide +kernel⟩

end Sample

end CommandShell
