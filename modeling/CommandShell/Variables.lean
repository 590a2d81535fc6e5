import CommandShell.OrderedMap
import CommandShell.Text.Utf8

namespace CommandShell

/-!
# Variables — what a process knows by name

Names and values are byte strings, kept in the order of the names.

* `Variables.set`, `Variables.get?`, `Variables.getText?` — one variable; the last sees only text;
* `Variables.listing` — all of them as `NAME=value`, as processes receive them.
-/

instance : DecidableLT Bytes := inferInstanceAs (DecidableLT (List UInt8))

/-- Variables by name. -/
abbrev Variables := OrderedMap Bytes Bytes

namespace Variables

/-- Gives a variable a value. -/
def set (vars : Variables) (name value : Bytes) : Variables := OrderedMap.insert vars name value

/-- The value of a variable. -/
def get? (vars : Variables) (name : String) : Option Bytes :=
  OrderedMap.get? vars (Bytes.ofString name)

/-- The value of a variable, if it is text. -/
def getText? (vars : Variables) (name : String) : Option String :=
  (Variables.get? vars name).bind Bytes.toString?

/-- The byte between a name and its value. -/
def equals : UInt8 := 61

/-- Every variable as `NAME=value`, in the order of the names. -/
def listing (vars : Variables) : List Bytes :=
  vars.entries.map fun entry => entry.1 ++ equals :: entry.2

end Variables

end CommandShell
