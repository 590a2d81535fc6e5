import CommandShell.Session
import CommandShell.Toml.Document

namespace CommandShell

/-!
# Settings — what the user has set up

Settings are read from a TOML file with two tables, `help` and `log`.

* `Settings` — the settings; every field has a value of its own where the file gives none;
* `Settings.ofEntries?` — what a document says; none if a known key has a value of the wrong kind;
* `Settings.location` — the path of the file;
* `Settings.load` — reads the file. One that cannot be read is as good as none; one that says
  nothing sensible is warned about, and nothing in it counts.
-/

/-- What the user has set up. -/
structure Settings where
  /-- How the manual is shown. -/
  help : HelpSettings := {}
  /-- Which events are logged. -/
  filter : String := "warn"
deriving DecidableEq, Repr

namespace Settings

/-- The text of a value; no value is no text, and any other value is a mistake. -/
def text? : Option Toml.Node → Option (Option String)
  | none => some none
  | some (.text content) => some (some content)
  | some _ => none

/-- The texts of some keys in a table. The table may also be given as an array of its values, in the
    order of the keys; a date or time counts as a table without any of the keys. -/
def texts? (keys : List String) : Option Toml.Node → Option (List (Option String))
  | none => some (keys.map fun _ => none)
  | some (.table _ entries) => keys.mapM fun key => text? (Toml.lookup entries key)
  | some (.array items) => keys.zipIdx.mapM fun (_, i) => text? items[i]?
  | some (.moment _) => some (keys.map fun _ => none)
  | some _ => none

/-- The settings that a document gives. -/
def ofEntries? (document : Toml.Entries) : Option Settings := do
  -- A wrong value anywhere spoils the whole document.
  let help ← texts? ["pager", "manual"] (Toml.lookup document "help")
  let log ← texts? ["filter"] (Toml.lookup document "log")
  let unset : Settings := {}
  let pager := (help[0]?.join).getD unset.help.pager
  let manual := ((help[1]?.join).map Path.ofString).getD unset.help.manual
  return { help := { pager, manual }, filter := (log[0]?.join).getD unset.filter }

/-- The settings that a text gives. -/
def ofText? (text : String) : Option Settings := (Toml.parse? text).bind ofEntries?

/-- The value of a variable that is set to something. -/
def nonempty? (vars : Variables) (name : String) : Option Path :=
  match Variables.get? vars name with
  | some (b :: rest) => some ⟨b :: rest⟩
  | _ => none

/-- The directory that holds settings. -/
def directory (vars : Variables) (accountHome : Path) : Path :=
  let standard :=
    ((nonempty? vars "HOME").getD accountHome).join (Path.ofString ".config")
  match nonempty? vars "XDG_CONFIG_HOME" with
  | some path => if path.isAbsolute then path else standard
  | none => standard

/-- The path of the file with the settings. -/
def location (vars : Variables) (accountHome : Path) : Path :=
  match nonempty? vars "MYSHELL_CONFIG" with
  | some path => path
  | none =>
    ((directory vars accountHome).join (Path.ofString "myshell")).join
      (Path.ofString "config.toml")

/-- The text of a file, if it can be read and is text. -/
def readText? (h : Host) (path : Path) : Option String :=
  match h.world.files.openInput h.directory path with
  | .error _ => none
  | .ok node =>
    match h.world.files.content node with
    | .error _ => none
    | .ok content => content.toString?

/-- What is said about a file that gives no settings. Where in the text the mistake is, is left out:
    one phrase stands for whatever the reader of documents has to say. -/
def warning (path : Path) : String :=
  "warning: failed to parse " ++ path.display ++ ": no usable settings\n"

/-- The settings of the file at a path, and the warning about it. -/
def loadFrom (h : Host) (path : Path) : Settings × Option String :=
  match readText? h path with
  | none => ({}, none)
  | some text =>
    match ofText? text with
    | none => ({}, some (warning path))
    | some settings => (settings, none)

/-- The settings for a process with the given variables. -/
def load (h : Host) (vars : Variables) : Settings × Option String :=
  loadFrom h (location vars h.accountHome)

end Settings

end CommandShell
