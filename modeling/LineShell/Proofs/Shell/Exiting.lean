import LineShell.Proofs.Shell.Launching
import LineShell.Proofs.Shell.Loop
import LineShell.Proofs.Shell.Run
import LineShell.Proofs.Text.Numeral

/-!
A number on its way to the exit code of the process. It is read from text, brought into a byte, made
into a status and read out of it again; the byte is what arrives, if the shell can say what it
has to before it leaves. A code of any size comes out of its status modulo 256, but a status is a
success only if no bit of it is set, so with codes of more than a byte the two may tell different
things.
-/
namespace LineShell
variable {σ : Type}

namespace WaitStatus

theorem shellCode_lt (s : WaitStatus) : s.shellCode < 256 := by
  rw [shellCode_eq]
  split
  · exact Nat.mod_lt _ (by decide)
  · split <;> omega

/-- The word of a status is 256 times the code, as far as there is room. -/
theorem raw_ofCode (code : Int32) :
    ((ofCode code).raw.toNat : Int) = 256 * code.toInt % 2 ^ 32 := by
  have value : code.toInt = (code.toUInt32.toNat : Int).bmod (2 ^ 32) :=
    BitVec.toInt_eq_toNat_bmod _
  have raw := toNat_ofCode code
  simp only [UInt32.size] at raw
  rw [value, Int.bmod_def]
  split <;> omega

theorem shellCode_ofCode_emod (code : Int32) :
    ((ofCode code).shellCode : Int) = code.toInt % 256 := by
  have raw := raw_ofCode code
  rw [shellCode_eq, if_pos (by omega)]
  omega

theorem isSuccess_ofCode_iff (code : Int32) :
    (ofCode code).isSuccess = true ↔ (2 ^ 24 : Int) ∣ code.toInt := by
  have raw := raw_ofCode code
  rw [isSuccess_iff]
  omega

/-- What a status tells of the code it was made of. The code comes out modulo 256, and the status is
a success if the low 24 bits of the code are zero. The two agree about whether all went well unless
the code is a multiple of 256 and not of 2 ^ 24, so they agree about codes that fit in a byte. -/
theorem ofCode_agreement (code : Int32) :
    ((ofCode code).shellCode : Int) = code.toInt % 256 ∧
    (ofCode code).shellCode < 256 ∧
    ((ofCode code).isSuccess = true ↔ (2 ^ 24 : Int) ∣ code.toInt) ∧
    (((ofCode code).isSuccess = true ↔ (ofCode code).shellCode = 0) ↔
      (256 ∣ code.toInt → (2 ^ 24 : Int) ∣ code.toInt)) ∧
    (0 ≤ code.toInt → code.toInt < 256 →
      ((ofCode code).isSuccess = true ↔ (ofCode code).shellCode = 0)) := by
  have byte := shellCode_ofCode_emod code
  refine ⟨byte, shellCode_lt _, isSuccess_ofCode_iff code, ?_, fun lower upper => ?_⟩
  all_goals
    rw [isSuccess_ofCode_iff]
    omega

/-- The first code that is too large: its byte is zero, but something of it is in the status. -/
theorem success_differs_from_code :
    ¬∀ code : Int32, ((ofCode code).shellCode : Int) = code.toInt % 256 ∧
      ((ofCode code).isSuccess = true ↔ (ofCode code).shellCode = 0) := by
  intro agree
  have zero : (ofCode 256).shellCode = 0 := by decide
  have success := (agree 256).2.mpr zero
  exact absurd success (by decide)

end WaitStatus

/-- The code that a process ends with when it is told to exit, `last` being the status of its last
line. A number counts modulo 256, and what is no number of 64 bits counts as two. -/
inductive ExitCode (last : WaitStatus) : List String → Nat → Prop
  | number {arg : String} {n : Int} {code : Nat} : Text.Decimal64 arg n → (code : Int) = n % 256 →
      ExitCode last [arg] code
  | noNumber {arg : String} : (∀ n, ¬Text.Decimal64 arg n) → ExitCode last [arg] 2
  | last : ExitCode last [] last.shellCode

def Mode.farewell (mode : Mode) : List (Handle × String) :=
  if mode.isInteractive then [(Handle.output, "exit\n")] else []

/-- What a shell says when it is told to exit, and where: a complaint about what is no number, and
goodbye. -/
inductive LastWords (mode : Mode) : List String → List (Handle × String) → Prop
  | goodbye {args : List String} : (∀ arg ∈ args, ∃ n, Text.Decimal64 arg n) →
      LastWords mode args mode.farewell
  | complaint {arg : String} : (∀ n, ¬Text.Decimal64 arg n) →
      LastWords mode [arg]
        ((Handle.errors, "simsh: exit: " ++ arg ++ ": numeric argument required\n") ::
          mode.farewell)

def Host.say (h : Host σ) : List (Handle × String) → σ → Except IoError Unit × σ
  | [], s => (.ok (), s)
  | (handle, text) :: rest, s =>
      match h.write handle text s with
      | (.ok _, s) => h.say rest s
      | (.error e, s) => (.error e, s)

/-- A shell that has something to say exits with a code, or breaks off if it cannot say it. -/
inductive ExitsAfter {α : Type} (said : Except IoError Unit) (code : Nat) : Except Halt α → Prop
  | exited : said = .ok () → ExitsAfter said code (.error (.exited code))
  | broken {e : IoError} : said = .error e → ExitsAfter said code (.error .broken)

inductive EndsAfter (said : Except IoError Unit) (code : Nat) : CommandLine.Ending → Prop
  | code : said = .ok () → EndsAfter said code (.code code)
  | fault {e : IoError} : said = .error e → EndsAfter said code .fault

/-- A line that has a builtin run on operands: that is what it says after its expansions, and the
files that it names can be opened, which leaves the system in this state. -/
def Calls (h : Host σ) (running : Running σ) (text : String) (builtin : Builtin)
    (operands : List String) (host : σ) : Prop :=
  ∃ command streams, running.parse h (effective text) = .ok command ∧
    Builtin.ofName? command.program = some builtin ∧ command.operands = operands ∧
    openStreams h command running.host = (.ok streams, host)

def Reads (h : Host σ) (before : Running σ) (text : String) (running : Running σ) : Prop :=
  ∃ directory typed host, h.currentDir before.host = .ok directory ∧
    h.readLine before.shell.mode.promptShown (prompt h directory before) before.host =
      (.ok (some typed), host) ∧
    Text.typedLine? typed = some text ∧ running = { before with host }

theorem toInt_ofInt_byte (n : Int) : (Int32.ofInt (n % 256)).toInt = n % 256 :=
  Int32.toInt_ofInt_of_le (by omega) (by omega)

theorem shellCode_ofCode_byte (n : Int) :
    ((WaitStatus.ofCode (Int32.ofInt (n % 256))).shellCode : Int) = n % 256 := by
  rw [WaitStatus.shellCode_ofCode_emod, toInt_ofInt_byte, Int.emod_emod]

namespace Builtin

theorem exitStatus?_of_decimal {arg : String} {n : Int} (number : Text.Decimal64 arg n) :
    exitStatus? arg = some (.ofCode (Int32.ofInt (n % 256))) := by
  rw [exitStatus?, Text.signed64?_eq_some_iff.mpr number]
  rfl

theorem exitStatus?_of_no_decimal {arg : String} (none : ∀ n, ¬Text.Decimal64 arg n) :
    exitStatus? arg = Option.none := by
  rw [exitStatus?, Text.signed64?_eq_none_iff.mpr none]
  rfl

theorem quit_exits {α : Type} (h : Host σ) (status : Option WaitStatus) (running : Running σ) :
    ExitsAfter (h.say running.shell.mode.farewell running.host).1
      (status.getD running.shell.lastStatus).shellCode
      ((ShellM.quit h status : ShellM σ α).run running).1 := by
  rw [ShellM.run_quit, Nat.mod_eq_of_lt (WaitStatus.shellCode_lt _)]
  unfold ShellM.goodbye Mode.farewell
  cases running.shell.mode.isInteractive with
  | false => exact .exited rfl
  | true =>
      simp only [if_true, Host.say]
      rcases h.write Handle.output "exit\n" running.host with ⟨e | _, s⟩
      · exact .broken rfl
      · exact .exited rfl

theorem runExit_number (h : Host σ) {arg : String} {n : Int} (number : Text.Decimal64 arg n)
    (running : Running σ) :
    ExitsAfter (h.say running.shell.mode.farewell running.host).1 (n % 256).toNat
      ((runExit h [arg]).run running).1 := by
  have byte := shellCode_ofCode_byte n
  have code : (n % 256).toNat = (WaitStatus.ofCode (Int32.ofInt (n % 256))).shellCode := by omega
  unfold runExit
  rw [if_neg (by simp)]
  dsimp only [List.head?_cons]
  rw [exitStatus?_of_decimal number, code]
  exact quit_exits h (some _) running

/-- What is no number is complained about first. -/
theorem runExit_noNumber (h : Host σ) {arg : String} (none : ∀ n, ¬Text.Decimal64 arg n)
    (running : Running σ) :
    ExitsAfter (h.say ((Handle.errors, "simsh: exit: " ++ arg ++ ": numeric argument required\n") ::
        running.shell.mode.farewell) running.host).1 2
      ((runExit h [arg]).run running).1 := by
  have two : (WaitStatus.ofCode 2).shellCode = 2 := by decide
  unfold runExit
  rw [if_neg (by simp)]
  dsimp only [List.head?_cons]
  rw [exitStatus?_of_no_decimal none]
  dsimp only
  rw [ShellM.run_bind, ShellM.complain, ShellM.run_insist, Host.say,
    show "simsh: exit: " ++ arg ++ ": numeric argument required" ++ "\n" =
      "simsh: exit: " ++ arg ++ ": numeric argument required\n" from String.append_assoc]
  rcases h.write Handle.errors _ running.host with ⟨e | _, s⟩
  · exact .broken rfl
  · have exits := quit_exits (α := Unit) h (some (.ofCode 2)) { running with host := s }
    rwa [Option.getD_some, two] at exits

theorem exits_run (h : Host σ) (write : Writer σ) {args : List String} (few : args.length ≤ 1)
    (running : Running σ) :
    ∃ code words, ExitCode running.shell.lastStatus args code ∧ code < 256 ∧
      LastWords running.shell.mode args words ∧
      ExitsAfter (h.say words running.host).1 code
        ((Builtin.exit.run h write args).run running).1 := by
  match args, few with
  | [], _ =>
      exact ⟨_, _, .last, WaitStatus.shellCode_lt _, .goodbye nofun, quit_exits h none running⟩
  | [arg], _ =>
      by_cases number : ∃ n, Text.Decimal64 arg n
      · obtain ⟨n, number⟩ := number
        exact ⟨_, _, .number number (by omega), by omega, .goodbye (by simpa using ⟨n, number⟩),
          runExit_number h number running⟩
      · have none := not_exists.mp number
        exact ⟨2, _, .noNumber none, by decide, .complaint none, runExit_noNumber h none running⟩

end Builtin

theorem parse_blank (lookup : String → Option String) :
    Command.parse (expandVariables lookup "") = .error .emptyCommand := by
  have empty : expandVariables lookup "" = "" := by
    rw [expandVariables, String.toList_empty, pieces_nil]
    rfl
  rw [empty]
  decide +kernel

theorem Calls.nonblank {h : Host σ} {running : Running σ} {text : String} {builtin : Builtin}
    {operands : List String} {host : σ} (calls : Calls h running text builtin operands host) :
    effective text ≠ "" := by
  intro blank
  obtain ⟨command, -, parsed, -⟩ := calls
  rw [blank, Running.parse, parse_blank] at parsed
  cases parsed

theorem ExitsAfter.not_stays {α : Type} {said : Except IoError Unit} {code : Nat}
    {result : Except Halt α} (exits : ExitsAfter said code result) : ¬Stays result := by
  cases exits <;> exact nofun

section
variable {h : Host σ} {running : Running σ} {text : String} {operands : List String} {host : σ}

/-- A line that tells the shell to exit has its files opened first. -/
theorem execute_exits (calls : Calls h running text .exit operands host)
    (few : operands.length ≤ 1) :
    ∃ code words, ExitCode running.shell.lastStatus operands code ∧ code < 256 ∧
      LastWords running.shell.mode operands words ∧
      ExitsAfter (h.say words host).1 code (execute h text running).1 := by
  have nonblank := calls.nonblank
  obtain ⟨command, streams, parsed, named, rfl, opened⟩ := calls
  obtain ⟨code, words, meant, small, said, exits⟩ := Builtin.exits_run h
    (h.write (streams.output.getD Handle.output)) few
    { running.remember (effective text) with host }
  refine ⟨code, words, meant, small, said, ?_⟩
  have ran : (runLine h (effective text)).run (running.remember (effective text)) =
      (Builtin.exit.run h (h.write (streams.output.getD Handle.output)) command.operands).run
        { running.remember (effective text) with host } := by
    rw [run_runLine, show (running.remember (effective text)).parse h (effective text) =
      .ok command from parsed]
    dsimp only
    rw [named]
    dsimp only
    rw [run_runBuiltin, show openStreams h command (running.remember (effective text)).host =
      (.ok streams, host) from opened]
    dsimp only
    cases target : streams.output with
    | some file => rfl
    | none =>
        rw [target] at exits
        exact run_flushed_departed h exits.not_stays
  rw [execute_nonblank h nonblank, ran]
  generalize (Builtin.exit.run h (h.write _) command.operands).run _ = out at exits ⊢
  obtain ⟨result, last⟩ := out
  cases exits with
  | exited ok => exact .exited ok
  | broken failed => exact .broken failed

theorem conclude_exits {said : Except IoError Unit} {code : Nat}
    {out : Except Halt Unit × Running σ} (exits : ExitsAfter said code out.1) :
    EndsAfter said code (CommandLine.conclude h out).1 := by
  obtain ⟨result, last⟩ := out
  cases exits with
  | exited ok => exact .code ok
  | broken failed => exact .fault failed

theorem executeAll_exits {said : Except IoError Unit} {code : Nat} {front : List String}
    {start : Running σ} (reached : executeAll h front start = (.ok (), running))
    (exits : ExitsAfter said code (execute h text running).1) (rest : List String) :
    ExitsAfter said code (executeAll h (front ++ text :: rest) start).1 := by
  rw [executeAll_append, reached]
  dsimp only
  rw [executeAll]
  generalize execute h text running = out at exits ⊢
  obtain ⟨result, last⟩ := out
  cases exits with
  | exited ok => exact .exited ok
  | broken failed => exact .broken failed

theorem converse_exits {said : Except IoError Unit} {code turns : Nat} {start before : Running σ}
    (reached : interact h turns start = (none, before)) (reads : Reads h before text running)
    (exits : ExitsAfter said code (execute h text running).1) (more : Nat) :
    EndsAfter said code (CommandLine.converse h (turns + (more + 1)) start).1 := by
  obtain ⟨directory, typed, host, here, read, meant, rfl⟩ := reads
  rw [CommandLine.converse, interact_add, reached]
  dsimp only
  rw [interact, turn]
  simp only [here, read, meant]
  generalize execute h text { before with host } = out at exits ⊢
  obtain ⟨result, last⟩ := out
  cases exits with
  | exited ok => exact .code ok
  | broken failed => exact .fault failed

end

/-- The process ends with the number asked for modulo 256, whatever the size and the sign of the
number; with two if no number of 64 bits is asked for, and if nothing is asked for with the code of
the last line, which is never larger than a byte. It does so if the shell can say what it has to
before it leaves, and else it ends with a fault. So does a command, a script that has more lines to
run and an interactive shell. On the way the byte fits in the narrower number that it is put into,
all of it is in the status, and all of it comes out again. -/
theorem exit_ends_with_code (h : Host σ) :
    (∀ (write : Writer σ) args (running : Running σ), args.length ≤ 1 →
      ∃ code words, ExitCode running.shell.lastStatus args code ∧ code < 256 ∧
        LastWords running.shell.mode args words ∧
        ExitsAfter (h.say words running.host).1 code
          ((Builtin.exit.run h write args).run running).1) ∧
    (∀ (write : Writer σ) (running : Running σ) (n : Int), -2 ^ 63 ≤ n → n < 2 ^ 63 →
      ExitsAfter (h.say running.shell.mode.farewell running.host).1 (n % 256).toNat
        ((Builtin.exit.run h write [toString n]).run running).1) ∧
    (∀ text args (running : Running σ) host, Calls h running text .exit args host →
      args.length ≤ 1 →
      ∃ code words, ExitCode running.shell.lastStatus args code ∧ code < 256 ∧
        LastWords running.shell.mode args words ∧
        EndsAfter (h.say words host).1 code (CommandLine.conclude h (execute h text running)).1 ∧
        (∀ front start rest, executeAll h front start = (.ok (), running) →
          EndsAfter (h.say words host).1 code
            (CommandLine.conclude h (executeAll h (front ++ text :: rest) start)).1) ∧
        ∀ turns start before more, interact h turns start = (none, before) →
          Reads h before text running →
          EndsAfter (h.say words host).1 code
            (CommandLine.converse h (turns + (more + 1)) start).1) ∧
    ∀ arg n, Text.Decimal64 arg n → ∃ narrow : Int32, narrow.toInt = n % 256 ∧
      Builtin.exitStatus? arg = some (.ofCode narrow) ∧
      ((WaitStatus.ofCode narrow).raw.toNat : Int) = 256 * (n % 256) ∧
      ((WaitStatus.ofCode narrow).shellCode : Int) = n % 256 := by
  refine ⟨fun write args running few => Builtin.exits_run h write few running,
    fun write running n least greatest => ?_, fun text args running host calls few => ?_,
    fun arg n number => ?_⟩
  · exact Builtin.runExit_number h ⟨Text.decimal_toString n, least, greatest⟩ running
  · obtain ⟨code, words, meant, small, said, exits⟩ := execute_exits calls few
    exact ⟨code, words, meant, small, said, conclude_exits exits,
      fun front start rest reached => conclude_exits (executeAll_exits reached exits rest),
      fun turns start before more reached reads => converse_exits reached reads exits more⟩
  · have narrow := toInt_ofInt_byte n
    refine ⟨_, narrow, Builtin.exitStatus?_of_decimal number, ?_, shellCode_ofCode_byte n⟩
    rw [WaitStatus.raw_ofCode, narrow]
    omega

section
variable {said : Except IoError Unit} {code : Nat} {ending : CommandLine.Ending}

theorem EndsAfter.eq_code (ends : EndsAfter said code ending) (ok : said = .ok ()) :
    ending = .code code := by
  cases ends with
  | code => rfl
  | fault failed => cases ok.symm.trans failed

theorem EndsAfter.eq_fault (ends : EndsAfter said code ending) {e : IoError}
    (failed : said = .error e) : ending = .fault := by
  cases ends with
  | code ok => cases ok.symm.trans failed
  | fault => rfl

end

def speechless : Host Unit :=
  { CommandLine.uniform 3 "" with write := fun _ _ s => (.error .closed, s) }

theorem ExitCode.eq_of_number {last : WaitStatus} {arg : String} {n : Int} {code : Nat}
    (meant : ExitCode last [arg] code) (number : Text.Decimal64 arg n) :
    (code : Int) = n % 256 := by
  cases meant with
  | number same value =>
      have read := (Text.signed64?_eq_some_iff.mpr same).symm.trans
        (Text.signed64?_eq_some_iff.mpr number)
      cases read
      exact value
  | noNumber none => exact absurd number (none _)

theorem LastWords.eq_of_number {mode : Mode} {arg : String} {n : Int}
    {words : List (Handle × String)} (said : LastWords mode [arg] words)
    (number : Text.Decimal64 arg n) : words = mode.farewell := by
  cases said with
  | goodbye => rfl
  | complaint none => exact absurd number (none n)

def chatty : Running Unit where
  shell := { mode := .interactive 100 false, environment := {}, history := { capacity := 100 } }
  host := ()

/-- A script that exits with a number below zero between its lines, and an interactive shell that
cannot say goodbye. -/
theorem exit_ends_with_code_negative :
    Calls (CommandLine.uniform 3 "") (CommandLine.batch {} ()) "exit -257 # no more" .exit
      ["-257"] () ∧
    Text.Decimal64 "-257" (-257) ∧
    (CommandLine.conclude (CommandLine.uniform 3 "") (executeAll (CommandLine.uniform 3 "")
      ["# first", "exit -257 # no more", "pwd"] (CommandLine.batch {} ()))).1 = .code 255 ∧
    Calls speechless chatty "exit -257" .exit ["-257"] () ∧
    (CommandLine.conclude speechless (execute speechless "exit -257" chatty)).1 = .fault := by
  have number : Text.Decimal64 "-257" (-257) :=
    Text.signed64?_eq_some_iff.mp (by decide +kernel)
  have calls : Calls (CommandLine.uniform 3 "") (CommandLine.batch {} ()) "exit -257 # no more"
      .exit ["-257"] () :=
    ⟨{ args := ["exit", "-257"] }, {}, by decide +kernel, by decide +kernel, rfl, rfl⟩
  have muted : Calls speechless chatty "exit -257" .exit ["-257"] () :=
    ⟨{ args := ["exit", "-257"] }, {}, by decide +kernel, by decide +kernel, rfl, rfl⟩
  refine ⟨calls, number, ?_, muted, ?_⟩
  · obtain ⟨-, -, ends, -⟩ := exit_ends_with_code (CommandLine.uniform 3 "")
    obtain ⟨code, words, meant, -, said, -, script, -⟩ := ends _ _ _ _ calls (by decide)
    have reached : executeAll (CommandLine.uniform 3 "") ["# first"] (CommandLine.batch {} ()) =
        (.ok (), CommandLine.batch {} ()) :=
      executeAll_blank _ (by decide +kernel) _
    have value := meant.eq_of_number number
    obtain rfl : code = 255 := by omega
    obtain rfl := said.eq_of_number number
    exact (script ["# first"] _ ["pwd"] reached).eq_code rfl
  · obtain ⟨-, -, ends, -⟩ := exit_ends_with_code speechless
    obtain ⟨code, words, -, -, said, ended, -⟩ := ends _ _ _ _ muted (by decide)
    obtain rfl := said.eq_of_number number
    exact ended.eq_fault rfl

end LineShell
