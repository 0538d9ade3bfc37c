import LineShell.Command
import LineShell.Search

/-!
Running a program: find it, open the files of its streams, start it. The first step that fails
ends the launch. A program in the background gets a job, which is announced; one in the foreground
is waited for and must succeed.
-/
namespace LineShell

def openTarget {σ : Type} (openFile : String → σ → Except IoError Handle × σ) (stream : Stream) :
    Option String → σ → Except ShellError (Option Handle) × σ
  | none, s => (.ok none, s)
  | some path, s =>
      match openFile path s with
      | (.ok handle, s) => (.ok (some handle), s)
      | (.error e, s) => (.error (.redirectFailed path stream (some e)), s)

/-- Opens the files that a command names, for input, output and errors in turn. -/
def openStreams {σ : Type} (h : Host σ) (command : Command) (s : σ) :
    Except ShellError Streams × σ :=
  match openTarget h.openInput .input command.inputFile s with
  | (.error e, s) => (.error e, s)
  | (.ok input, s) =>
      match openTarget (h.openOutput command.append) .output command.outputFile s with
      | (.error e, s) => (.error e, s)
      | (.ok output, s) =>
          match openTarget (h.openOutput false) .error command.errorFile s with
          | (.error e, s) => (.error e, s)
          | (.ok errors, s) => (.ok { input, output, errors }, s)

/-- Runs an external command; a job's number is the result when it runs in the background.
Background programs keep the shield against interrupts that the shell itself has. -/
def launch {σ : Type} (h : Host σ) (env : Environment) (shielded : Bool) (write : Writer σ)
    (command : Command) (jobs : JobTable) (s : σ) :
    Except ShellError (Option JobId) × JobTable × σ :=
  match resolve h env command.program s with
  | none => (.error (.commandNotFound command.program), jobs, s)
  | some path =>
      match openStreams h command s with
      | (.error e, s) => (.error e, jobs, s)
      | (.ok streams, s) =>
          let program : Program :=
            { path, name := command.program, args := command.operands, environment := env,
              streams, shielded := shielded && command.background }
          if command.background then
            match h.start program s with
            | (.error e, s) => (.error (.notStarted command.program (some e)), jobs, s)
            | (.ok pid, s) =>
                let (job, jobs) := jobs.register pid command.argv
                match write (job.announcement ++ "\n") s with
                | (.error e, s) => (.error (.io e), jobs, s)
                | (.ok _, s) => (.ok (some job.id), jobs, s)
          else
            match h.run program s with
            | (.error e, s) => (.error (.notStarted command.program (some e)), jobs, s)
            | (.ok status, s) =>
                if status.isSuccess then (.ok none, jobs, s)
                else (.error (.programFailed command.program status), jobs, s)

end LineShell
