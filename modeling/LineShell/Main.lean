import LineShell.CommandLine
import LineShell.Machine.AsHost
import LineShell.Machine.Setup

/-!
The shell as a program, on a machine of its own: the lines it is given are read before it starts,
and what it writes is shown when it has ended.
-/
namespace LineShell

/-- All that a stream has to give. -/
partial def readRest (stream : IO.FS.Stream) (taken : ByteArray) : IO ByteArray := do
  let block ← stream.read 65536
  if block.isEmpty then pure taken else readRest stream (taken ++ block)

end LineShell

open LineShell

def main (args : List String) : IO UInt32 := do
  let input := (← readRest (← IO.getStdin) ByteArray.empty).data.toList
  let terminal ← IO.getEnv "TERM"
  let environment : Environment :=
    { entries := [("HOME", "/root"), ("PATH", "/usr/bin:/bin")] ++
        (terminal.map fun name => ("TERM", name)).toList }
  let machine := Machine.standard "/root" (some input)
  let (ending, machine) :=
    CommandLine.run Machine.host (input.length + 2) args environment machine
  let machine := machine.windUp (ending ≠ .unfinished)
  (← IO.getStdout).write ⟨(machine.written Handle.output).toArray⟩
  (← IO.getStderr).write ⟨(machine.written Handle.errors).toArray⟩
  match machine.shellEnded, ending with
  | some signal, _ => pure (UInt32.ofNat (128 + signal))
  | none, .code code => pure (UInt32.ofNat code)
  | none, _ => pure 101
