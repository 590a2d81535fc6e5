import CommandShell.Invocation
import CommandShell.Machine

/-!
# Main — the shell from the command line

A session runs on the machine of `Machine`, whose files last as long as the session. Of the files
outside, it finds the batch file and the settings, under the paths that they have there. Its
standard input is read before it begins.
-/

namespace CommandShell

namespace Session

/-- The variables that a session is begun with, as far as they are set. -/
def inherited : List String :=
  ["HOME", "MYSHELL_CONFIG", "PATH", "TERM", "USER", "XDG_CONFIG_HOME"]

/-- The values of variables outside. -/
def readVariables (names : List String) : IO Variables :=
  names.foldlM (fun vars name => do
    let value ← IO.getEnv name
    return match value with
    | none => vars
    | some text => Variables.set vars (Bytes.ofString name) (Bytes.ofString text)) {}

/-- The files of the machine with the file at a path outside, if it can be read. -/
def bring (directory : Path) (files : FileSystem) (path : Path) : IO FileSystem := do
  let place := directory.join path
  try
    let content ← IO.FS.readBinFile place.display
    return files.install .root place (.file 0o644 content.toList)
  catch _ =>
    return files

/-- Everything that a stream still holds, after what was read before. -/
partial def drain (stream : IO.FS.Stream) (done : ByteArray) : IO ByteArray := do
  let block ← stream.read 65536
  if block.isEmpty then return done else drain stream (done ++ block)

end Session

end CommandShell

open CommandShell in
/-- Runs the shell with the arguments of the command line. -/
def main (arguments : List String) : IO UInt32 := do
  let directory := Path.ofString (toString (← IO.currentDir))
  let vars ← Session.readVariables Session.inherited
  let files := Machine.files.install .root directory .directory
  let wanted := arguments.map Path.ofString ++ [Settings.location vars (Path.ofString "/root")]
  let files ← wanted.foldlM (Session.bring directory) files
  let input ← Session.drain (← IO.getStdin) .empty
  let start := (files.locate .root directory).toOption.getD .root
  let host := Machine.host files start
  let terminal : Terminal := { input := { pending := input.toList } }
  let host := { host with world := { host.world with terminal } }
  let (code, sh) := Invocation.run host (arguments.map Bytes.ofString) vars
  let written := sh.host.world.terminal
  (← IO.getStdout).write ⟨written.output.written.toArray⟩
  (← IO.getStderr).write ⟨written.errors.written.toArray⟩
  return UInt32.ofNat code
