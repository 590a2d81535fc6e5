import CommandShell.Proofs.EarlierOutput

namespace CommandShell

/-!
# CopiedBytes — reading from memory in pieces, and writing what was read

Bytes that wait in memory are read in rounds. Each round asks for as many as it likes, also for none
or for more than there are, and what it gets is written to memory:

* `Streams.copy`, `Streams.copies` — one round of copying, and what each of several rounds gives;
* `Streams.split` — streams in memory between which some bytes were copied, while the others wait;
* `Streams.copy_split` — what one round does with them;
  `Streams.getElem?_copies` — and each of several rounds;
* `Streams.copies_in_order` — no byte is lost, and none is copied twice.
-/

/-- Of the bytes that wait in memory, as many are read as are asked for and there are. -/
theorem Inlet.read_memory (pending : Bytes) (w : World) (count : Nat) :
    (Inlet.memory { pending }).read w count
      = (.ok (pending.take count), .memory { pending := pending.drop count }, w) := by
  cases pending <;> rfl

namespace Streams

/-! ### Rounds of copying -/

/-- A round of copying: reads at most `count` bytes, and writes those that it got. It gives these
    bytes, or the reason why it failed to read or to write them. -/
def copy (io : Streams) (w : World) (count : Nat) : Except Errno Bytes × Streams × World :=
  match io.input.read w count with
  | (.error reason, input, w) => (.error reason, { io with input }, w)
  | (.ok bytes, input, w) =>
    let (result, output, w) := io.output.write w bytes
    (result.map fun () => bytes, { input, output }, w)

/-- What each of several rounds gives, one after the other. -/
def copies (io : Streams) (w : World) : List Nat → List (Except Errno Bytes × Streams × World)
  | [] => []
  | count :: counts =>
    let round := io.copy w count
    round :: copies round.2.1 round.2.2 counts

variable {data : Bytes} {copied : Nat} {w : World} {counts : List Nat} {i count : Nat}

/-- Streams in memory between which the first `copied` bytes of `data` were copied, while the others
    wait to be read. -/
def split (data : Bytes) (copied : Nat) : Streams :=
  { input := .memory { pending := data.drop copied }
    output := .memory { written := data.take copied } }

/-- **A round** copies the bytes that are next, as many as are asked for and there are. -/
theorem copy_split (data : Bytes) (copied : Nat) (w : World) (count : Nat) :
    (split data copied).copy w count
      = (.ok ((data.drop copied).take count), split data (copied + count), w) := by
  unfold copy split
  simp only [Inlet.read_memory, Outlet.write_memory, List.drop_drop, ← List.take_add]
  rfl

/-- **Each of several rounds** copies the bytes after those that the rounds before it asked for. -/
theorem getElem?_copies (data : Bytes) (copied : Nat) (w : World) (counts : List Nat) (i : Nat) :
    ((split data copied).copies w counts)[i]?
      = counts[i]?.map fun count => (split data (copied + (counts.take i).sum)).copy w count := by
  -- By induction on the rounds, wherever the first of them begins.
  induction counts generalizing copied i with
  | nil => rfl
  | cons count rest ih =>
    cases i with
    | zero => rfl
    | succ i =>
      -- What the first round leaves is split again, further on.
      have hnext : (split data copied).copies w (count :: rest)
          = (split data copied).copy w count :: (split data (copied + count)).copies w rest := by
        rw [copies, copy_split]
      rw [hnext, List.getElem?_cons_succ, List.getElem?_cons_succ, ih, List.take_succ_cons,
        List.sum_cons, Nat.add_assoc]

/-- No more bytes are copied than there are. -/
theorem split_min (data : Bytes) (copied : Nat) :
    split data (min copied data.length) = split data copied := by
  rcases Nat.le_total copied data.length with hle | hle
  · rw [Nat.min_eq_left hle]
  · -- Beyond the end, all bytes are copied and none waits.
    rw [Nat.min_eq_right hle]
    unfold split
    rw [List.drop_length, List.take_length, List.drop_of_length_le hle, List.take_of_length_le hle]

/-- **Copying in memory.** Of the bytes `data` that wait in memory, rounds that ask for `counts` of
    them lose none, and copy none twice. With `left` bytes left by the rounds before it, a round that
    asks for `count`

* copies the `min count left` bytes that are next, so that it copies none only if it asks for none
  or none are left;
* leaves the bytes from `copied` on to be read, and those up to there are shown to whoever keeps hold
  of the memory that is written to. They still are when a command or a line has got this memory for
  its output and has ended, followed by what that has written;
* does nothing to the world. -/
theorem copies_in_order (data : Bytes) (w : World) (hcount : counts[i]? = some count) :
    let asked := (counts.take i).sum
    let left := data.length - asked
    let copied := min (counts.take (i + 1)).sum data.length
    ∃ (bytes : Bytes) (io : Streams),
      (copies ⟨.memory { pending := data }, .memory {}⟩ w counts)[i]? = some (.ok bytes, io, w) ∧
      bytes = (data.drop asked).take count ∧ bytes.length = min count left ∧
      (bytes.length = 0 ↔ count = 0 ∨ left = 0) ∧
      io.input = .memory { pending := data.drop copied } ∧ io.output.Shows (data.take copied) := by
  intro asked left copied
  -- The streams at the beginning are split in front of the first byte.
  have hround : ((split data 0).copies w counts)[i]?
      = some (.ok ((data.drop asked).take count), split data (asked + count), w) := by
    rw [getElem?_copies, hcount, Option.map_some, Nat.zero_add, copy_split]
  have hcopied : split data (asked + count) = split data copied := by
    have hsum : (counts.take (i + 1)).sum = asked + count := by
      rw [List.take_add_one, hcount, List.sum_append]
      rfl
    rw [← split_min, ← hsum]
  have hlength : ((data.drop asked).take count).length = min count left := by
    rw [List.length_take, List.length_drop]
  rw [hcopied] at hround
  refine ⟨_, _, hround, rfl, hlength, ?_, rfl, Outlet.shows_memory _⟩
  rw [hlength, Nat.min_eq_zero_iff]

end Streams

/-! ### A round that asks for more than there is -/

namespace Sample

open Streams

/-- Rounds that ask for no byte, for two, for five and for one. -/
def rounds : List Nat := [0, 2, 5, 1]

/-- Of three bytes, the third round gets the last one. A command that has got the output then writes
    after all three. -/
theorem read_beyond_end :
    rounds[2]? = some 5 ∧ ∃ (bytes : Bytes) (io : Streams),
      (copies ⟨.memory { pending := Bytes.ofString "abc" }, .memory {}⟩ shell.host.world
        rounds)[2]? = some (.ok bytes, io, shell.host.world) ∧
      bytes = Bytes.ofString "c" ∧ io.input = .memory {} ∧
      io.output.held shell.host.world = some (Bytes.ofString "abc") ∧
      let o := Builtin.echo.run ["d"] { input := .nothing, output := io.output } shell
      o.streams.output.held o.shell.host.world = some (Bytes.ofString "abcd \n") := by
  have hcount : rounds[2]? = some 5 := rfl
  obtain ⟨bytes, io, hround, hbytes, -, -, hinput, hshows⟩ :=
    copies_in_order (Bytes.ofString "abc") shell.host.world hcount
  have hlast : ((Bytes.ofString "abc").drop (rounds.take 2).sum).take 5 = Bytes.ofString "c" := by
    decide
  have hend : min (rounds.take (2 + 1)).sum (Bytes.ofString "abc").length = 3 := by decide
  have hall : (Bytes.ofString "abc").take 3 = Bytes.ofString "abc" := by decide
  have hnone : (Bytes.ofString "abc").drop 3 = [] := by decide
  rw [hlast] at hbytes
  rw [hend, hnone] at hinput
  rw [hend, hall] at hshows
  have hsaid : Bytes.ofString "abc" ++ Builtin.echo.text ["d"] shell = Bytes.ofString "abcd \n" := by
    decide
  have hafter := hshows.after_builtin shell .echo ["d"] .nothing (by decide) (by decide)
  rw [hsaid] at hafter
  exact ⟨hcount, bytes, io, hround, hbytes, hinput, hshows.held _, hafter⟩

end Sample

end CommandShell
