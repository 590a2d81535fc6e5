import CommandShell.Builtin
import Mathlib.Tactic.Common

namespace CommandShell

/-!
# OperandReading — which arguments a command accepts

* `Signature.Free` — arguments that neither ask for usage nor begin with an option;
* `Signature.read_ignored_iff` — a command without operands of its own accepts these and no other;
* `Signature.length_le_of_read_optional` — a command with an optional operand accepts at most one.
-/

namespace Signature

variable {form : OperandForm} {asked ended : Bool} {operands taken arguments : List String}

/-- Arguments whose first word, if there is one, ends the options or is an operand: it is `--`, or
    neither a request for usage nor an option. -/
def Free (arguments : List String) : Prop :=
  ∀ word, arguments.head? = some word →
    word = "--" ∨ (isUsageRequest word = false ∧ word.toList.head? ≠ some '-')

/-- Once usage was asked for, nothing is accepted. -/
theorem readFrom_asked (form : OperandForm) (ended : Bool) (taken arguments : List String) :
    readFrom form true ended taken arguments ≠ .accepted operands := by
  induction arguments generalizing ended taken with
  | nil => simp [readFrom]
  | cons word rest ih =>
    cases form with
    | ignored =>
      rw [readFrom]
      split_ifs <;> simp [ih]
    | optional name help =>
      rw [readFrom]
      split_ifs <;> simp [ih]

/-- After the end of the options, every word is an operand. -/
theorem readFrom_ignored_ended (taken arguments : List String) :
    readFrom .ignored false true taken arguments = .accepted (taken ++ arguments) := by
  induction arguments generalizing taken with
  | nil => simp [readFrom]
  | cons word rest ih => simp [readFrom, ih]

/-- **A command without operands of its own** accepts arguments exactly if the first of them does
    not ask for usage and is no option. -/
theorem read_ignored_iff {s : Signature} (hform : s.form = .ignored) (arguments : List String) :
    (∃ operands, s.read arguments = .accepted operands) ↔ Free arguments := by
  unfold read
  rw [hform]
  rcases arguments with _ | ⟨word, rest⟩
  · simp [readFrom, Free]
  · -- The first word decides: whatever is accepted after it ends the options.
    rw [readFrom]
    simp only [Free, List.head?_cons, Option.some.injEq, forall_eq']
    by_cases husage : isUsageRequest word = true
    · have hother : word ≠ "--" := by
        rintro rfl
        simp [isUsageRequest] at husage
      simp [husage, hother, readFrom_asked]
    · by_cases hend : word = "--"
      · rw [if_neg (by simp [husage]), if_pos (by simp [hend])]
        simp [hend, readFrom_ignored_ended]
      · by_cases hoption : word.toList.head? = some '-'
        · simp [husage, hend, hoption]
        · simp [husage, hend, hoption, readFrom_ignored_ended]

/-- A command with an optional operand accepts one at most. -/
theorem length_le_of_readFrom_optional {name help : String}
    (h : readFrom (.optional name help) asked ended taken arguments = .accepted operands)
    (htaken : taken.length ≤ 1) : operands.length ≤ 1 := by
  induction arguments generalizing asked ended taken with
  | nil =>
    rw [readFrom] at h
    split_ifs at h
    cases h
    exact htaken
  | cons word rest ih =>
    rw [readFrom] at h
    split_ifs at h
    · exact ih h htaken
    · exact ih h htaken
    · exact ih h (Nat.le_refl 1)

theorem length_le_of_read_optional {s : Signature} {name help : String}
    (hform : s.form = .optional name help) (h : s.read arguments = .accepted operands) :
    operands.length ≤ 1 := by
  unfold read at h
  rw [hform] at h
  exact length_le_of_readFrom_optional h (Nat.zero_le 1)

end Signature

namespace Builtin

/-- `cd` has one operand or none. -/
theorem read_cd_cases {arguments operands : List String}
    (h : Builtin.cd.read arguments = .accepted operands) :
    operands = [] ∨ ∃ target, operands = [target] := by
  have hlength : operands.length ≤ 1 := Signature.length_le_of_read_optional rfl h
  rcases operands with _ | ⟨target, _ | _⟩
  · exact .inl rfl
  · exact .inr ⟨target, rfl⟩
  · simp at hlength

/-- `quit` and `pause` accept every list of arguments but those that begin with an option or a
    request for usage. -/
theorem read_free_iff {b : Builtin} (hform : b.form = .ignored) (hecho : b ≠ .echo)
    (arguments : List String) :
    (∃ operands, b.read arguments = .accepted operands) ↔ Signature.Free arguments := by
  have hread : b.read arguments = b.signature.read arguments := by
    cases b
    case echo => exact absurd rfl hecho
    all_goals rfl
  rw [hread]
  exact Signature.read_ignored_iff hform arguments

end Builtin

end CommandShell
