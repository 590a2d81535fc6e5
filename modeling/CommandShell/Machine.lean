import CommandShell.ShellProgram
import CommandShell.Tools.Control
import CommandShell.Tools.Lines
import CommandShell.Tools.Scripting.Runner

namespace CommandShell

/-!
# Machine — a system to run the shell on

* `Machine.tools` — the programs that the system comes with;
* `Machine.files` — the files that the system comes with;
* `Machine.host` — the system around a shell that works in a given directory.
-/

namespace Machine

/-- The programs that the system comes with, by name. -/
def tools : List (String × Program) :=
  [("cat", Tools.cat), ("echo", Tools.echo), ("env", Tools.env), ("false", Tools.fail),
    ("head", Tools.head), ("mkdir", Tools.mkdir), ("pwd", Tools.pwd), ("rmdir", Tools.rmdir),
    ("sh", Tools.interpreter), ("sleep", Tools.sleep), ("sort", Tools.sort), ("tr", Tools.tr),
    ("true", Tools.succeed), ("wc", Tools.wc)].map fun (name, tool) => (name, Tool.program tool)

/-- The content of the executable file of a program. -/
def image (name : String) : Bytes := 0x7F :: Bytes.ofString ("ELF " ++ name ++ "\n")

/-- The path of the shell's own program. -/
def executable : Path := Path.ofString "/usr/local/bin/myshell"

/-- The directory that the account calls home. -/
def accountHome : Path := Path.ofString "/root"

/-- What the executable files do, where shells may be started from one another `depth` deep. -/
def programsWithin : (depth : Nat) → Programs
  | 0 => fun content => (tools.find? (image ·.1 = content)).map (·.2)
  | depth + 1 => fun content =>
    if content = image Invocation.signature.name then
      some (ShellProgram.program (programsWithin depth) executable accountHome)
    else programsWithin 0 content

/-- What the executable files do. -/
def programs : Programs := programsWithin Execution.nestingLimit

/-- The directory of the tools. -/
def toolDirectory : Path := Path.ofString "/usr/bin"

/-- The files that the system comes with, each with its path. -/
def items : List (String × FileSystem.Item) :=
  [("/usr/bin", .directory), ("/bin", .link (Path.ofString "usr/bin")), ("/tmp", .directory),
    ("/root", .directory), ("/dev/null", .device .null), ("/dev/full", .device .full),
    ("/proc/self/cmdline", .device .arguments),
    ("/usr/local/bin/myshell", .file 0o755 (image Invocation.signature.name))] ++
  tools.map fun tool => ("/usr/bin/" ++ tool.1, .file 0o755 (image tool.1))

/-- The files that the system comes with. -/
def files : FileSystem :=
  items.foldl (fun fs item => fs.install .root (Path.ofString item.1) item.2) .empty

/-- The process id of the shell. -/
def shellPid : Nat := 4000

/-- The permission bits that a process keeps from the files that it makes, unless it was told
    otherwise. -/
def mask : Nat := 0o022

/-- The system around a shell that works in a directory of the given files. -/
def host (files : FileSystem) (directory : Location) : Host :=
  { world :=
      { files
        terminal := {}
        shell := { pid := shellPid }
        nextPid := shellPid + 1 }
    programs
    directory
    mask
    executable
    accountHome }

end Machine

end CommandShell
