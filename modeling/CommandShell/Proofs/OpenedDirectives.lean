import CommandShell.Redirection
import Mathlib.Tactic.Common

namespace CommandShell

/-!
# OpenedDirectives — what opening the files of directives does

Opening touches the files and nothing else of the system, so it is told on file systems:

* `Redirection.openIn` — opening the file of one directive;
* `Redirection.Opens` — opening the files of directives one after the other, all of which succeeds;
* `Redirection.openAll_of_opens` — where all of them succeed, `Redirection.openAll` leaves what they
  leave;
* `Redirection.Opens.input_eq_none_iff` — whether one of them stands in for standard input;
* `Redirection.openAll_cases` — else it stops at the first that fails, and leaves what those before
  it left.
-/

/-- The system with other files, and nothing else changed. -/
def Host.withFiles (h : Host) (files : FileSystem) : Host :=
  { h with world := { h.world with files } }

namespace Host

@[simp] theorem withFiles_files (h : Host) (files : FileSystem) :
    (h.withFiles files).world.files = files := rfl

@[simp] theorem withFiles_directory (h : Host) (files : FileSystem) :
    (h.withFiles files).directory = h.directory := rfl

@[simp] theorem withFiles_mask (h : Host) (files : FileSystem) :
    (h.withFiles files).mask = h.mask := rfl

@[simp] theorem withFiles_withFiles (h : Host) (files files' : FileSystem) :
    (h.withFiles files).withFiles files' = h.withFiles files' := rfl

end Host

namespace Redirection

/-- Opening the file of a directive in a file system, read from `directory`: the files afterwards
    and the opened one. -/
def openIn (r : Redirection) (mask : Nat) (start : Location) (directory : Path) (fs : FileSystem) :
    Except IoError (FileSystem × Handle) :=
  match r.direction with
  | .input => (fs.openInput start (directory.join r.path)).map fun node => (fs, ⟨node, 0, false⟩)
  | .truncate =>
    (fs.openOutput mask start (directory.join r.path) true).map fun o => (o.1, ⟨o.2, 0, false⟩)
  | .append =>
    (fs.openOutput mask start (directory.join r.path) false).map fun o => (o.1, ⟨o.2, 0, true⟩)

/-- The failure of a directive whose file cannot be opened. -/
def refusal (r : Redirection) (cause : IoError) : Failure :=
  match r.direction with
  | .input => .redirectInput r.path cause
  | _ => .redirectOutput r.path cause

/-- The system after a directive is opened: its files are those that opening leaves. -/
theorem openFile_eq (r : Redirection) (h : Host) (directory : Path) :
    r.openFile h directory =
      match r.openIn h.mask h.directory directory h.world.files with
      | .ok (files, handle) => .ok (handle, h.withFiles files)
      | .error cause => .error (r.refusal cause) := by
  rcases r with ⟨_ | _ | _, target⟩
  all_goals
    simp only [openFile, openIn, refusal]
    split <;> rename_i hopen <;> rw [hopen] <;> rfl

/-- Directives open one after the other: from the files `fs`, with `opened` taking the place of
    streams so far, to the files and streams after the last. -/
inductive Opens (mask : Nat) (start : Location) (directory : Path) :
    FileSystem → OpenedFiles → List Redirection → FileSystem → OpenedFiles → Prop
  /-- Without directives nothing changes. -/
  | nil {fs opened} : Opens mask start directory fs opened [] fs opened
  /-- The first directive opens, and the others on what it left. -/
  | cons {fs opened r rest fs₁ handle fs₂ opened₂} :
      r.openIn mask start directory fs = .ok (fs₁, handle) →
      Opens mask start directory fs₁ (opened.use r.direction handle) rest fs₂ opened₂ →
      Opens mask start directory fs opened (r :: rest) fs₂ opened₂

variable {mask : Nat} {start : Location} {directory : Path} {fs fs' fs'' : FileSystem}
  {opened opened' : OpenedFiles} {rs : List Redirection} {r : Redirection} {handle : Handle}

/-- A further directive opens on what the others left. -/
theorem Opens.concat (h : Opens mask start directory fs opened rs fs' opened')
    (hr : r.openIn mask start directory fs' = .ok (fs'', handle)) :
    Opens mask start directory fs opened (rs ++ [r]) fs'' (opened'.use r.direction handle) := by
  induction h with
  | nil => exact .cons hr .nil
  | cons hopen _ ih => exact .cons hopen (ih hr)

/-- What stands in for standard input stays unless a directive asks for another input. -/
theorem Opens.input_eq_none_iff_of
    (h : Opens mask start directory fs opened rs fs' opened') :
    opened'.input = none ↔ opened.input = none ∧ ∀ r ∈ rs, r.direction ≠ .input := by
  induction h with
  | nil => simp
  | @cons _ opened r _ _ _ _ _ _ _ ih =>
    rw [ih]
    rcases r with ⟨_ | _ | _, target⟩ <;> simp [OpenedFiles.use]

/-- A file stands in for standard input exactly if a directive asks for one. -/
theorem Opens.input_eq_none_iff
    (h : Opens mask start directory fs {} rs fs' opened) :
    opened.input = none ↔ ∀ r ∈ rs, r.direction ≠ .input := by
  rw [h.input_eq_none_iff_of]
  simp

/-- Directives that open leave the system as it was, but for the files, to the directives after
    them. -/
theorem openOnto_append_of_opens (h : Opens mask start directory fs opened rs fs' opened')
    (rest : List Redirection) (host : Host)
    (hmask : host.mask = mask) (hstart : host.directory = start) (hfiles : host.world.files = fs) :
    openOnto directory opened host (rs ++ rest)
      = openOnto directory opened' (host.withFiles fs') rest := by
  induction h generalizing host with
  | nil =>
    subst hfiles
    rfl
  | @cons fs _ _ _ fs₁ _ _ _ hopen _ ih =>
    rw [List.cons_append, openOnto, openFile_eq, hmask, hstart, hfiles, hopen]
    simp only
    rw [ih (host.withFiles fs₁) hmask hstart rfl, Host.withFiles_withFiles]

/-- Directives that open give their files, and leave what they leave. -/
theorem openOnto_of_opens (h : Opens mask start directory fs opened rs fs' opened') (host : Host)
    (hmask : host.mask = mask) (hstart : host.directory = start) (hfiles : host.world.files = fs) :
    openOnto directory opened host rs = (.ok opened', host.withFiles fs') := by
  have happend := openOnto_append_of_opens h [] host hmask hstart hfiles
  rwa [List.append_nil] at happend

/-- Directives open, or they do up to one that does not. -/
theorem openOnto_cases (directory : Path) (rs : List Redirection) (host : Host)
    (opened : OpenedFiles) :
    (∃ fs' opened',
      Opens host.mask host.directory directory host.world.files opened rs fs' opened' ∧
      openOnto directory opened host rs = (.ok opened', host.withFiles fs')) ∨
    (∃ before r after fs' opened' cause, rs = before ++ r :: after ∧
      Opens host.mask host.directory directory host.world.files opened before fs' opened' ∧
      r.openIn host.mask host.directory directory fs' = .error cause ∧
      openOnto directory opened host rs = (.error (r.refusal cause), host.withFiles fs')) := by
  induction rs generalizing host opened with
  | nil => exact .inl ⟨host.world.files, opened, .nil, rfl⟩
  | cons r rest ih =>
    rw [openOnto, openFile_eq]
    rcases hopen : r.openIn host.mask host.directory directory host.world.files with
      cause | ⟨fs₁, handle⟩
    · exact .inr ⟨[], r, rest, host.world.files, opened, cause, rfl, .nil, hopen, rfl⟩
    · rcases ih (host.withFiles fs₁) (opened.use r.direction handle) with
        ⟨fs', opened', hrest, hresult⟩ |
          ⟨before, failed, after, fs', opened', cause, rfl, hbefore, hfailed, hresult⟩
      · exact .inl ⟨fs', opened', .cons hopen hrest, hresult⟩
      · exact .inr ⟨r :: before, failed, after, fs', opened', cause, rfl, .cons hopen hbefore,
          hfailed, hresult⟩

/-- Directives that open do so from no opened files on. -/
theorem openAll_of_opens {directory : Path} {host : Host} {rs : List Redirection}
    {fs' : FileSystem} {opened : OpenedFiles}
    (h : Opens host.mask host.directory directory host.world.files {} rs fs' opened) :
    openAll directory host rs = (.ok opened, host.withFiles fs') :=
  openOnto_of_opens h host rfl rfl rfl

/-- Where a directive does not open, the files are those that the directives before it left. -/
theorem openAll_of_refused {directory : Path} {host : Host} {before after : List Redirection}
    {r : Redirection} {fs' : FileSystem} {opened : OpenedFiles} {cause : IoError}
    (h : Opens host.mask host.directory directory host.world.files {} before fs' opened)
    (hr : r.openIn host.mask host.directory directory fs' = .error cause) :
    openAll directory host (before ++ r :: after)
      = (.error (r.refusal cause), host.withFiles fs') := by
  rw [openAll, openOnto_append_of_opens h (r :: after) host rfl rfl rfl, openOnto, openFile_eq,
    Host.withFiles_directory, Host.withFiles_mask, Host.withFiles_files, hr]

/-- Directives open, or they do up to one that does not. -/
theorem openAll_cases (directory : Path) (host : Host) (rs : List Redirection) :
    (∃ fs' opened, Opens host.mask host.directory directory host.world.files {} rs fs' opened ∧
      openAll directory host rs = (.ok opened, host.withFiles fs')) ∨
    (∃ before r after fs' opened cause, rs = before ++ r :: after ∧
      Opens host.mask host.directory directory host.world.files {} before fs' opened ∧
      r.openIn host.mask host.directory directory fs' = .error cause ∧
      openAll directory host rs = (.error (r.refusal cause), host.withFiles fs')) :=
  openOnto_cases directory rs host {}

end Redirection

end CommandShell
