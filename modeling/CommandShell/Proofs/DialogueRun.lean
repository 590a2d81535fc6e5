import CommandShell.Proofs.OwnInput

namespace CommandShell

/-!
# DialogueRun — the rounds of a dialogue

In each round the shell asks for a line and executes it. A dialogue ends when the session is to be
left or the shell's process has ended, when a line fails for good, or when there is no line to be
had:

* `Round` — a line that was asked for, and the shell that executes it;
* `Shell.Talks` — a dialogue round by round; `Shell.exists_talks` says that there is always one;
* `Shell.Talks.converse_eq` — what is asked for and executed until the session ends is it;
* `Shell.entryOf_of_isText` — what asking finds where the standard input is text.
-/

/-- A line that was asked for, and is executed. -/
structure Round where
  /-- The bytes that were taken for the line. -/
  line : Bytes
  /-- The line that was meant. -/
  text : String
  /-- The shell that executes it. -/
  shell : Shell

namespace Round

/-- What comes of the line. -/
def outcome (r : Round) : Outcome Failure := r.shell.execute r.text {}

/-- The shell after the line, whose failure is reported if the session survives it. -/
def after (r : Round) : Except Failure Unit × Shell := Shell.settle r.outcome

/-- The bytes that the command of the line took from the shell's own standard input. -/
def took (r : Round) : Bytes :=
  r.shell.input.pending.take (r.shell.input.pending.length - r.after.2.input.pending.length)

end Round

namespace Shell

variable {sh after : Shell} {r : Round} {rounds : List Round} {result : Except Failure Unit}
  {text : String}

/-! ### One round -/

theorem settle_input (o : Outcome Failure) : (settle o).2.input = o.shell.input := by
  unfold settle
  split
  · rfl
  · split_ifs <;> rfl

/-- A line that ends the dialogue has failed for good. -/
theorem settle_error {o : Outcome Failure} {failure : Failure}
    (h : settle o = (.error failure, after)) :
    o.result = .error failure ∧ failure.isFatal = true := by
  unfold settle at h
  split at h
  · cases h
  · rename_i hresult
    split_ifs at h with hfatal
    · cases h
      exact ⟨hresult, hfatal⟩
    · cases h

/-- A line takes from the front of the standard input, and its report takes nothing. -/
theorem after_readsOn (r : Round) : r.shell.ReadsOn r.after.2 :=
  (execute_readsOn r.shell r.text).trans (.of_eq (settle_input r.outcome))

/-- What a command took is what is missing after it. -/
theorem took_append (r : Round) :
    r.took ++ r.after.2.input.pending = r.shell.input.pending := by
  obtain ⟨front, hfront⟩ := (after_readsOn r).pending
  unfold Round.took
  rw [← hfront]
  simp

/-- Showing the prompt leaves the standard input as it is. -/
theorem offer_input (sh : Shell) : sh.offer.2.input = sh.input := by
  unfold offer
  split_ifs <;> rfl

/-- Once the prompt is shown, asking takes a line from the standard input. -/
theorem ask_of_offer {shown : Shell} (h : sh.offer = (.ok (), shown)) :
    sh.ask = (entryOf sh.input.takeLine.1, shown.withInput sh.input.takeLine.2) := by
  have hinput := sh.offer_input
  rw [h] at hinput
  rw [← hinput, ask, h]
  rfl

/-- Where it cannot be shown, nothing is taken. -/
theorem ask_of_offer_error {reason : Errno} (h : sh.offer = (.error reason, after)) :
    sh.ask = (.failed (.os reason), after) := by
  rw [ask, h]

/-- Where no prompt is to be shown, a line is taken at once. -/
theorem ask_of_silent (h : sh.showsPrompt = false) :
    sh.ask = (entryOf sh.input.takeLine.1, sh.withInput sh.input.takeLine.2) := by
  refine ask_of_offer ?_
  rw [offer, if_neg (by simp [h])]

/-- What asking gives was found in the standard input, unless the prompt could not be shown. -/
theorem ask_cases (sh : Shell) :
    (∃ reason after, sh.offer = (.error reason, after) ∧ sh.ask = (.failed (.os reason), after)) ∨
      sh.ask.1 = entryOf sh.input.takeLine.1 ∧ sh.ask.2.input = sh.input.takeLine.2 := by
  rcases hoffer : sh.offer with ⟨reason | ⟨⟩, shown⟩
  · exact .inl ⟨reason, shown, rfl, ask_of_offer_error hoffer⟩
  · rw [ask_of_offer hoffer]
    exact .inr ⟨rfl, rfl⟩

/-- A line that was asked for is the first one of the standard input. -/
theorem ask_line {here : Shell} (h : sh.ask = (.line text, here)) :
    here.input.pending = Bytes.afterFirstLine sh.input.pending ∧
      here.input.failure = sh.input.failure ∧ sh.input.pending ≠ [] := by
  rcases sh.ask_cases with ⟨reason, after, -, hask⟩ | ⟨hentry, hhere⟩
  · cases h.symm.trans hask
  rw [h] at hentry hhere
  obtain ⟨-, hfailure⟩ := sh.input.takeLine_suffix
  rw [hhere]
  rcases hread : sh.input.takeLine.1 with reason | typed
  · rw [hread] at hentry
    cases hentry
  · obtain ⟨rfl, hrest⟩ := Supply.takeLine_ok hread
    refine ⟨hrest, hfailure, fun hnil => ?_⟩
    rw [hread, Bytes.firstLine_eq_nil_iff.2 hnil] at hentry
    cases hentry

/-- A round is begun: the session goes on, and a line is asked for. -/
structure Hears (sh : Shell) (r : Round) : Prop where
  /-- The session is not to be left, and the shell's process has not ended. -/
  goes_on : sh.stops = false
  /-- The jobs that have ended are dropped, and the line is had by asking. -/
  asked : sh.reap.1.ask = (.line r.text, r.shell)
  /-- What was taken for it is the first line of the standard input. -/
  line_eq : r.line = Bytes.firstLine sh.input.pending

namespace Hears

/-- What was taken for the line stood in front of what is left. -/
theorem line_append (h : sh.Hears r) : r.line ++ r.shell.input.pending = sh.input.pending := by
  obtain ⟨hrest, -, -⟩ := ask_line h.asked
  rw [h.line_eq, hrest]
  exact Bytes.firstLine_append_afterFirstLine sh.input.pending

/-- Something was taken. -/
theorem line_ne_nil (h : sh.Hears r) : r.line ≠ [] := by
  obtain ⟨-, -, hfull⟩ := ask_line h.asked
  rw [h.line_eq]
  exact fun hnil => hfull (Bytes.firstLine_eq_nil_iff.1 hnil)

/-- Such a session is not left. -/
theorem not_stops (h : sh.Hears r) : ¬ sh.stops = true := by
  simp [h.goes_on]

/-- Asking gives nothing but the line. -/
theorem entry_eq (h : sh.Hears r) {entry : Entry} (hask : sh.reap.1.ask = (entry, after)) :
    entry = .line r.text :=
  (congrArg Prod.fst (h.asked.symm.trans hask)).symm

/-- Only one round can be begun. -/
theorem unique {r' : Round} (h : sh.Hears r) (h' : sh.Hears r') : r = r' := by
  obtain ⟨line, text, here⟩ := r
  obtain ⟨line', text', here'⟩ := r'
  obtain ⟨hentry, rfl⟩ := Prod.mk.inj (h.asked.symm.trans h'.asked)
  obtain rfl := Entry.line.inj hentry
  obtain rfl := h.line_eq.trans h'.line_eq.symm
  rfl

/-- After the round less is left than before. -/
theorem length_lt (h : sh.Hears r) :
    r.after.2.input.pending.length < sh.input.pending.length := by
  have hline := List.length_pos_iff.2 h.line_ne_nil
  have htaken := congrArg List.length h.line_append
  have hleft := (after_readsOn r).pending.length_le
  rw [List.length_append] at htaken
  omega

end Hears

/-! ### A dialogue -/

/-- A dialogue: the rounds, what comes of it, and the shell afterwards. -/
inductive Talks : Shell → List Round → Except Failure Unit → Shell → Prop
  /-- The session is to be left, or the shell's process has ended. -/
  | left {sh : Shell} : sh.stops = true → Talks sh [] (.ok ()) sh
  /-- There is no further line. -/
  | finished {sh after : Shell} : sh.stops = false →
      sh.reap.1.ask = (.finished, after) → Talks sh [] (.ok ()) (after.print farewell)
  /-- No line can be read, or the prompt cannot be shown. -/
  | failed {sh after : Shell} {cause : IoError} : sh.stops = false →
      sh.reap.1.ask = (.failed cause, after) → Talks sh [] (.error (.lineReader cause)) after
  /-- A line fails for good. -/
  | fatal {sh after : Shell} {r : Round} {failure : Failure} : sh.Hears r →
      r.after = (.error failure, after) → Talks sh [r] (.error failure) after
  /-- A line is executed, and the dialogue goes on. -/
  | round {sh next after : Shell} {r : Round} {rounds : List Round}
      {result : Except Failure Unit} : sh.Hears r → r.after = (.ok (), next) →
      Talks next rounds result after → Talks sh (r :: rounds) result after

/-- There is a dialogue, whatever the standard input is. -/
theorem exists_talks (sh : Shell) : ∃ rounds result after, sh.Talks rounds result after := by
  by_cases hstops : sh.stops = true
  · exact ⟨[], .ok (), sh, .left hstops⟩
  · have hgoes : sh.stops = false := by simpa using hstops
    rcases hask : sh.reap.1.ask with ⟨text | _ | cause, here⟩
    · -- Each round takes something from the standard input.
      have hears : sh.Hears ⟨Bytes.firstLine sh.input.pending, text, here⟩ := ⟨hgoes, hask, rfl⟩
      rcases hafter : (⟨_, text, here⟩ : Round).after with ⟨failure | ⟨⟩, next⟩
      · exact ⟨_, _, _, .fatal hears hafter⟩
      · have hless : next.input.pending.length < sh.input.pending.length := by
          have hround := hears.length_lt
          rwa [hafter] at hround
        obtain ⟨rounds, result, after, htalks⟩ := exists_talks next
        exact ⟨_, result, after, .round hears hafter htalks⟩
    · exact ⟨[], .ok (), _, .finished hgoes hask⟩
    · exact ⟨[], _, here, .failed hgoes hask⟩
termination_by sh.input.pending.length

namespace Talks

/-- Each round takes at least one byte. -/
theorem length_le (h : sh.Talks rounds result after) :
    rounds.length ≤ sh.input.pending.length := by
  induction h with
  | left | finished | failed => exact Nat.zero_le _
  | fatal hears _ => exact Nat.lt_of_le_of_lt (Nat.zero_le _) hears.length_lt
  | round hears hafter _ ih =>
    have hless := hears.length_lt
    rw [hafter] at hless
    exact Nat.lt_of_le_of_lt ih hless

/-- There is only one dialogue. -/
theorem unique {rounds' : List Round} {result' : Except Failure Unit} {after' : Shell}
    (h : sh.Talks rounds result after) (h' : sh.Talks rounds' result' after') :
    rounds = rounds' ∧ result = result' ∧ after = after' := by
  -- How the session stands and what asking gives tell the constructors apart.
  induction h generalizing rounds' result' after' with
  | left hstops =>
    cases h' with
    | left => exact ⟨rfl, rfl, rfl⟩
    | finished hgoes | failed hgoes => simp [hstops] at hgoes
    | fatal hears | round hears => exact absurd hstops hears.not_stops
  | finished hgoes hask =>
    cases h' with
    | left hstops => simp [hstops] at hgoes
    | finished _ hask' =>
      obtain rfl := congrArg Prod.snd (hask.symm.trans hask')
      exact ⟨rfl, rfl, rfl⟩
    | failed _ hask' => simp [hask] at hask'
    | fatal hears | round hears => cases hears.entry_eq hask
  | failed hgoes hask =>
    cases h' with
    | left hstops => simp [hstops] at hgoes
    | finished _ hask' => simp [hask] at hask'
    | failed _ hask' =>
      obtain ⟨hentry, rfl⟩ := Prod.mk.inj (hask.symm.trans hask')
      cases hentry
      exact ⟨rfl, rfl, rfl⟩
    | fatal hears | round hears => cases hears.entry_eq hask
  | fatal hears hafter =>
    cases h' with
    | left hstops => exact absurd hstops hears.not_stops
    | finished _ hask' | failed _ hask' => cases hears.entry_eq hask'
    | fatal hears' hafter' =>
      obtain rfl := hears.unique hears'
      cases hafter.symm.trans hafter'
      exact ⟨rfl, rfl, rfl⟩
    | round hears' hafter' =>
      obtain rfl := hears.unique hears'
      cases hafter.symm.trans hafter'
  | round hears hafter _ ih =>
    cases h' with
    | left hstops => exact absurd hstops hears.not_stops
    | finished _ hask' | failed _ hask' => cases hears.entry_eq hask'
    | fatal hears' hafter' =>
      obtain rfl := hears.unique hears'
      cases hafter.symm.trans hafter'
    | round hears' hafter' htalks' =>
      obtain rfl := hears.unique hears'
      cases hafter.symm.trans hafter'
      obtain ⟨rfl, rfl, rfl⟩ := ih htalks'
      exact ⟨rfl, rfl, rfl⟩

/-- With rounds enough, what is asked for and executed is the dialogue. -/
theorem converseFor_eq (h : sh.Talks rounds result after) {count : Nat}
    (hcount : rounds.length < count) : sh.converseFor count = (result, after) := by
  induction h generalizing count with
  | left hstops =>
    obtain ⟨count, rfl⟩ := Nat.exists_eq_add_of_lt hcount
    rw [converseFor, if_pos hstops]
  | finished hgoes hask =>
    obtain ⟨count, rfl⟩ := Nat.exists_eq_add_of_lt hcount
    rw [converseFor, if_neg (by simp [hgoes]), hask]
  | failed hgoes hask =>
    obtain ⟨count, rfl⟩ := Nat.exists_eq_add_of_lt hcount
    rw [converseFor, if_neg (by simp [hgoes]), hask]
  | fatal hears hafter =>
    obtain ⟨count, rfl⟩ := Nat.exists_eq_add_of_lt hcount
    rw [converseFor, if_neg (by simp [hears.goes_on]), hears.asked]
    unfold Round.after Round.outcome at hafter
    simp only [hafter]
  | round hears hafter _ ih =>
    obtain ⟨count, rfl⟩ := Nat.exists_eq_add_of_lt hcount
    rw [converseFor, if_neg (by simp [hears.goes_on]), hears.asked]
    unfold Round.after Round.outcome at hafter
    simp only [hafter]
    refine ih ?_
    rw [List.length_cons]
    omega

/-- **The dialogue** is what is asked for and executed until the session ends. -/
theorem converse_eq (h : sh.Talks rounds result after) : sh.converse = (result, after) := by
  have henough : sh.input.pending.length < sh.input.pending.length + 2 := by omega
  exact h.converseFor_eq (Nat.lt_of_le_of_lt h.length_le henough)

end Talks

/-- **Conversing** is a dialogue. -/
theorem converse_talks (sh : Shell) : ∃ rounds, sh.Talks rounds sh.converse.1 sh.converse.2 := by
  obtain ⟨rounds, result, after, htalks⟩ := sh.exists_talks
  rw [htalks.converse_eq]
  exact ⟨rounds, htalks⟩

end Shell

/-! ### Text as standard input -/

/-- Bytes that wait to be read are text without backspaces, and end without a failure. -/
structure Supply.IsText (s : Supply) : Prop where
  /-- After them comes the end. -/
  ends : s.failure = none
  /-- They are characters, and none takes another away. -/
  plain : ∃ cs, Utf8.decode? s.pending = some cs ∧ LineEditor.backspace ∉ cs

/-- What comes after a line of text is text. -/
theorem Supply.IsText.takeLine {s : Supply} (h : s.IsText) : s.takeLine.2.IsText := by
  obtain ⟨cs, hcs, hplain⟩ := h.plain
  obtain ⟨typed, rest, -, hrest, rfl⟩ := Bytes.decode?_firstLine hcs
  rw [takeLine_eq h.ends]
  exact ⟨h.ends, rest, hrest, fun hmem => hplain (List.mem_append_right _ hmem)⟩

/-- Asking finds the end, or a line of which only the ending is dropped. -/
theorem Shell.entryOf_of_isText {s : Supply} (h : s.IsText) :
    (s.pending = [] ∧ entryOf s.takeLine.1 = .finished) ∨
      ∃ typed, Utf8.decode? (Bytes.firstLine s.pending) = some typed ∧
        entryOf s.takeLine.1 = .line (String.ofList (LineEditor.dropEnding typed)) := by
  obtain ⟨cs, hcs, hplain⟩ := h.plain
  obtain ⟨typed, rest, htyped, -, rfl⟩ := Bytes.decode?_firstLine hcs
  have hedit : LineEditor.edit typed = LineEditor.dropEnding typed :=
    LineEditor.edit_of_not_mem fun hmem => hplain (List.mem_append_left _ hmem)
  rw [Supply.takeLine_eq h.ends]
  by_cases hnil : s.pending = []
  · refine .inl ⟨hnil, ?_⟩
    simp only [Bytes.firstLine_eq_nil_iff.2 hnil, entryOf]
  · refine .inr ⟨typed, htyped, ?_⟩
    obtain ⟨b, rest, hline⟩ :=
      List.exists_cons_of_ne_nil (fun hfirst => hnil (Bytes.firstLine_eq_nil_iff.1 hfirst))
    rw [hline] at htyped ⊢
    simp only [entryOf, htyped, hedit]

end CommandShell
