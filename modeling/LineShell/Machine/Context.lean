import LineShell.Machine.Script
import LineShell.Machine.ScriptJob
import LineShell.Machine.Storage

/-!
What a program runs in: its directory, variables, open files and arguments, and what a script has
set up for itself.
-/
namespace LineShell.Machine

/-- How far a script has read the options among its arguments: the word that comes next, counted
from one, and the place in the word before it, if that has letters left. -/
structure OptionPlace where
  index : Nat := 1
  offset : Option Nat := none
  deriving DecidableEq, Repr

/-- Names and values here are texts of bytes. -/
structure Context where
  /-- The process that runs the script; its parts may run in others. -/
  scriptPid : ProcessId
  directory : NodeId
  /-- The directory by the name under which the script knows it. -/
  directoryName : ByteText := ""
  bindings : Environment := {}
  /-- The variables that programs are started with. -/
  exported : List String := []
  readOnly : List String := []
  functions : List (String × Script) := []
  /-- The open files by descriptor. -/
  descriptors : List (Nat × Handle) := []
  name : ByteText
  params : List ByteText := []
  status : Nat := 0
  /-- The status of the script whose output was last put into a word. -/
  substituted : Nat := 0
  lastStarted : Option ProcessId := none
  jobs : List ScriptJob := []
  options : List Char := []
  /-- What to run on a signal, or at the end for zero; nothing at all keeps a signal off. -/
  traps : List (Nat × ByteText) := []
  /-- The names of programs that were found in the directories. -/
  remembered : List ByteText := []
  optionPlace : OptionPlace := {}
  /-- The permissions that new files do not get. -/
  mask : Nat := 0o022
  /-- The builtin that runs, if one does. -/
  builtin : Option ByteText := none
  line : Nat := 0

def optionNames : List (String × Char) :=
  [("errexit", 'e'), ("noglob", 'f'), ("ignoreeof", 'I'), ("interactive", 'i'), ("monitor", 'm'),
    ("noexec", 'n'), ("stdin", 's'), ("xtrace", 'x'), ("verbose", 'v'), ("vi", 'V'),
    ("emacs", 'E'), ("noclobber", 'C'), ("allexport", 'a'), ("notify", 'b'), ("nounset", 'u'),
    ("privileged", 'p')]

namespace Context

def environment (c : Context) : Environment :=
  { entries := c.bindings.entries.filter fun entry => c.exported.contains entry.1 }

def afterChange (c : Context) (name : String) (value : ByteText) : Context :=
  match name with
  | "PATH" => { c with remembered := [] }
  | "OPTIND" => { c with optionPlace := { index := value.toNat?.getD 1 } }
  | _ => c

def hasOption (c : Context) (letter : Char) : Bool :=
  c.options.contains letter

def markExported (c : Context) (name : String) : Context :=
  if c.exported.contains name then c else { c with exported := c.exported ++ [name] }

def setVariable (c : Context) (name : String) (value : ByteText) : Context :=
  let c := { c with bindings := c.bindings.set name value }.afterChange name value
  if c.hasOption 'a' then c.markExported name else c

def unsetVariable (c : Context) (name : String) : Context :=
  let exported := c.exported.filter (· ≠ name)
  { c with bindings := c.bindings.unset name, exported }.afterChange name ""

def remember (c : Context) (name : ByteText) : Context :=
  if name.toList.contains '/' ∨ c.remembered.contains name then c
  else { c with remembered := c.remembered ++ [name] }

def withStatus (c : Context) (status : Nat) : Context :=
  { c with status }

def setDescriptor (c : Context) (descriptor : Nat) (handle : Handle) : Context :=
  { c with descriptors := (descriptor, handle) :: c.descriptors.filter (·.1 ≠ descriptor) }

def closeDescriptor (c : Context) (descriptor : Nat) : Context :=
  { c with descriptors := c.descriptors.filter (·.1 ≠ descriptor) }

def parameter? (c : Context) (name : String) : Option ByteText :=
  match name with
  | "?" => some (toString c.status)
  | "$" => some (toString c.scriptPid)
  | "!" => c.lastStarted.map toString
  | "#" => some (toString c.params.length)
  | "-" => some (String.ofList ((optionNames.map (·.2)).reverse.filter c.hasOption))
  | "0" => some c.name
  | "*" | "@" => some (" ".intercalate c.params)
  | _ =>
      match name.toNat? with
      | some n => if n = 0 then some c.name else c.params[n - 1]?
      | none => c.bindings.find? name

/-- The characters that separate fields. -/
def separators (c : Context) : List Char :=
  match c.bindings.find? "IFS" with
  | some text => text.toList
  | none => [' ', '\t', '\n']

end Context

end LineShell.Machine
