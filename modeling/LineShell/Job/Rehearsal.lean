import LineShell.Job.Table

/-!
A job table against processes that answer from lists, for trying it out without any process.
-/
namespace LineShell

/-- Which processes have exited, which cannot be asked about, and who was asked. -/
structure Rehearsal where
  exited : List ProcessId := []
  broken : List ProcessId := []
  probed : List ProcessId := []
  sink : Sink := {}
  deriving DecidableEq, Repr

namespace Rehearsal

def probe (pid : ProcessId) (r : Rehearsal) : Except IoError Liveness × Rehearsal :=
  let answer :=
    if pid ∈ r.broken then .error (.other "probe failed")
    else if pid ∈ r.exited then .ok .exited
    else .ok .alive
  (answer, { r with probed := r.probed ++ [pid] })

def write (text : String) (r : Rehearsal) : Except IoError Unit × Rehearsal :=
  let (result, sink) := r.sink.write text
  (result, { r with sink })

end Rehearsal

end LineShell
