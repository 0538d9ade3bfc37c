import LineShell.Proofs.Environment.Values
import LineShell.Proofs.Shell.Builtins

/-!
The working directory and the variables that follow it. On a system whose directories stay where
they are, a change of directory moves the directory and both variables together or none of them, so
going back and then back again leads to where one was.
-/
namespace LineShell
variable {σ : Type}

inductive Host.Later (h : Host σ) (writers : Writer σ → Prop) (start : σ) : σ → Prop
  | now : Later h writers start start
  | entered {s next : σ} (path : String) : Later h writers start s →
      h.enterDir path s = .ok next → Later h writers start next
  | wrote {s : σ} {write : Writer σ} (text : String) : Later h writers start s → writers write →
      Later h writers start (write text s).2

/-- A system whose directories stay where they are, from some state on. Writing does not move the
shell. A directory that is entered has a path, and this path leads to it whenever it is entered
later. -/
structure Host.Steady (h : Host σ) (writers : Writer σ → Prop) (start : σ) : Prop where
  writes : ∀ s, h.Later writers start s → ∀ write, writers write → ∀ text,
    h.currentDir (write text s).2 = h.currentDir s
  lands : ∀ s, h.Later writers start s → ∀ path next, h.enterDir path s = .ok next →
    ∃ directory, h.currentDir next = .ok directory
  returns : ∀ s, h.Later writers start s → ∀ directory, h.currentDir s = .ok directory →
    ∀ t, h.Later writers s t →
      ∃ next, h.enterDir directory t = .ok next ∧ h.currentDir next = .ok directory

theorem Host.Later.trans {h : Host σ} {writers : Writer σ → Prop} {a b c : σ}
    (ab : h.Later writers a b) (bc : h.Later writers b c) : h.Later writers a c := by
  induction bc with
  | now => exact ab
  | entered path _ done ih => exact .entered path ih done
  | wrote text _ known ih => exact .wrote text ih known

theorem Host.Steady.later {h : Host σ} {writers : Writer σ → Prop} {start s : σ}
    (steady : h.Steady writers start) (later : h.Later writers start s) : h.Steady writers s where
  writes t reached := steady.writes t (later.trans reached)
  lands t reached := steady.lands t (later.trans reached)
  returns t reached := steady.returns t (later.trans reached)

structure Places where
  here : Except IoError String
  pwd : Option String
  oldpwd : Option String

def Running.places (h : Host σ) (running : Running σ) : Places where
  here := h.currentDir running.host
  pwd := running.shell.environment.get? "PWD"
  oldpwd := running.shell.environment.get? "OLDPWD"

/-- How places change along the results of calls. Those that fail change none of them, and the
others all three. -/
inductive Tour : Places → List (Except Halt Unit) → Places → Prop
  | done (places : Places) : Tour places [] places
  | stayed {places last : Places} {results : List (Except Halt Unit)} (e : ShellError) :
      Tour places results last → Tour places (.error (.failed e) :: results) last
  | went {places last : Places} {results : List (Except Halt Unit)} {before now : String} :
      places.here = .ok before →
      Tour { here := .ok now, pwd := some now, oldpwd := some before } results last →
      Tour places (.ok () :: results) last

structure DirectoryCall (σ : Type) where
  write : Writer σ
  args : List String

def goAll (h : Host σ) :
    List (DirectoryCall σ) → Running σ → List (Except Halt Unit) × Running σ
  | [], running => ([], running)
  | call :: rest, running =>
      let (result, next) := (Builtin.changeDir.run h call.write call.args).run running
      let (results, last) := goAll h rest next
      (result :: results, last)

namespace Builtin

def goTo (h : Host σ) (directory : String) : ShellM σ Unit := do
  let before ← ShellM.query h.currentDir
  enter h directory
  ShellM.changeEnvironment (·.set "OLDPWD" before)
  let now ← ShellM.query h.currentDir
  ShellM.changeEnvironment (·.set "PWD" now)

theorem runChangeDir_eq (h : Host σ) (write : Writer σ) (args : List String) :
    runChangeDir h write args =
      if args.length > 1 then do
        ShellM.fail (.builtinFailed "cd: too many arguments" 1)
        changeTarget h write args.head? >>= goTo h
      else changeTarget h write args.head? >>= goTo h := rfl

end Builtin

def Running.moved (running : Running σ) (host : σ) (before now : String) : Running σ where
  shell := { running.shell with
    environment := (running.shell.environment.set "OLDPWD" before).set "PWD" now }
  host := host

/-- The state after a change that went as far as entering the directory. -/
def Running.halfMoved (running : Running σ) (host : σ) (before : String) : Running σ where
  shell := { running.shell with environment := running.shell.environment.set "OLDPWD" before }
  host := host

theorem Running.places_moved (h : Host σ) (running : Running σ) (host : σ) (before now : String) :
    (running.moved host before now).places h =
      { here := h.currentDir host, pwd := some now, oldpwd := some before } := by
  have pwd : isIdentifier "PWD" = true := by decide
  have oldpwd : isIdentifier "OLDPWD" = true := by decide
  simp only [Running.places, Running.moved, Environment.get?_of_isIdentifier pwd,
    Environment.get?_of_isIdentifier oldpwd, Environment.find?_set, if_pos,
    if_neg (show "OLDPWD" ≠ "PWD" by decide)]

theorem run_goTo_eq (h : Host σ) (directory : String) (running : Running σ) :
    (Builtin.goTo h directory).run running =
      match h.currentDir running.host with
      | .error e => (.error (.failed (.io e)), running)
      | .ok before =>
          match h.enterDir directory running.host with
          | .error e =>
              (.error (.failed (.builtinFailed ("cd: " ++ directory ++ ": " ++ e.message) 1)),
                running)
          | .ok t =>
              match h.currentDir t with
              | .error e => (.error (.failed (.io e)), running.halfMoved t before)
              | .ok now => (.ok (), running.moved t before now) := by
  rw [Builtin.goTo, ShellM.run_bind, ShellM.run_query]
  cases h.currentDir running.host with
  | error e => rfl
  | ok before =>
      dsimp only [Except.mapError]
      rw [ShellM.run_bind, Builtin.run_enter]
      cases h.enterDir directory running.host with
      | error e => rfl
      | ok t =>
          dsimp only
          rw [ShellM.run_bind, ShellM.run_changeEnvironment]
          dsimp only
          rw [ShellM.run_bind, ShellM.run_query]
          dsimp only
          cases h.currentDir t <;> rfl

theorem run_goTo_moves {h : Host σ} {running : Running σ} {directory before now : String} {s : σ}
    (here : h.currentDir running.host = .ok before)
    (entered : h.enterDir directory running.host = .ok s) (there : h.currentDir s = .ok now) :
    (Builtin.goTo h directory).run running = (.ok (), running.moved s before now) := by
  rw [run_goTo_eq, here]
  dsimp only
  rw [entered]
  dsimp only
  rw [there]

/-- Going somewhere fails and leaves all as it is, or moves. -/
theorem run_goTo {h : Host σ} {writers : Writer σ → Prop} (running : Running σ)
    (steady : h.Steady writers running.host) (directory : String) :
    (∃ e, (Builtin.goTo h directory).run running = (.error (.failed e), running)) ∨
    ∃ before s now, h.currentDir running.host = .ok before ∧
      h.enterDir directory running.host = .ok s ∧ h.currentDir s = .ok now ∧
      (Builtin.goTo h directory).run running = (.ok (), running.moved s before now) := by
  cases here : h.currentDir running.host with
  | error e => exact .inl ⟨.io e, by rw [run_goTo_eq, here]⟩
  | ok before =>
      cases entered : h.enterDir directory running.host with
      | error e =>
          refine .inl ⟨.builtinFailed ("cd: " ++ directory ++ ": " ++ e.message) 1, ?_⟩
          rw [run_goTo_eq, here]
          dsimp only
          rw [entered]
      | ok s =>
          obtain ⟨now, there⟩ := steady.lands _ .now _ _ entered
          exact .inr ⟨before, s, now, rfl, rfl, there, run_goTo_moves here entered there⟩

/-- Going back writes where that is. -/
theorem run_changeTarget_back (h : Host σ) (write : Writer σ) (running : Running σ) :
    (Builtin.changeTarget h write (some "-")).run running =
      match running.shell.environment.get? "OLDPWD" with
      | some directory =>
          let (result, host) := write (directory ++ "\n") running.host
          ((result.mapError fun e => .failed (.io e)).map fun _ => directory, { running with host })
      | none => (.error (.failed (.builtinFailed "cd: OLDPWD not set" 1)), running) := by
  rw [Builtin.changeTarget, ShellM.run_bind, ShellM.run_environment]
  dsimp only
  cases running.shell.environment.get? "OLDPWD" with
  | none => rfl
  | some directory =>
      dsimp only
      rw [ShellM.run_bind, ShellM.run_emit]
      cases (write (directory ++ "\n") running.host).1 <;> rfl

/-- No directory at all and a tilde mean the same. -/
theorem run_changeTarget_home (h : Host σ) (write : Writer σ) {target : Option String}
    (home : target = none ∨ target = some "~") (running : Running σ) :
    (Builtin.changeTarget h write target).run running =
      match h.homeDir running.shell.environment running.host with
      | some home => (.ok home, running)
      | none => (.error (.failed (.builtinFailed "cd: HOME not set" 1)), running) := by
  rcases home with rfl | rfl
  all_goals
    rw [Builtin.changeTarget, ShellM.run_bind, ShellM.run_homeDir]
    dsimp only
    cases h.homeDir running.shell.environment running.host <;> rfl

theorem run_changeTarget_named (h : Host σ) (write : Writer σ) {directory : String}
    (noTilde : directory ≠ "~") (noDash : directory ≠ "-") (running : Running σ) :
    (Builtin.changeTarget h write (some directory)).run running = (.ok directory, running) := by
  unfold Builtin.changeTarget
  split
  · next same => cases same
  · next same => exact absurd (Option.some.inj same) noTilde
  · next same => exact absurd (Option.some.inj same) noDash
  · next same =>
      cases same
      rfl

/-- Finding out where to go may write, and does nothing else. -/
theorem run_changeTarget (h : Host σ) (write : Writer σ) (target : Option String)
    (running : Running σ) :
    ∃ s, (s = running.host ∨ ∃ text, s = (write text running.host).2) ∧
      ((∃ e, (Builtin.changeTarget h write target).run running =
          (.error (.failed e), { running with host := s })) ∨
        ∃ directory, (Builtin.changeTarget h write target).run running =
          (.ok directory, { running with host := s })) := by
  obtain rfl | other := eq_or_ne target (some "-")
  · rw [run_changeTarget_back]
    cases running.shell.environment.get? "OLDPWD" with
    | none => exact ⟨running.host, .inl rfl, .inl ⟨_, rfl⟩⟩
    | some directory =>
        refine ⟨_, .inr ⟨directory ++ "\n", rfl⟩, ?_⟩
        dsimp only
        cases (write (directory ++ "\n") running.host).1 with
        | error e => exact .inl ⟨_, rfl⟩
        | ok _ => exact .inr ⟨directory, rfl⟩
  · refine ⟨running.host, .inl rfl, ?_⟩
    by_cases home : target = none ∨ target = some "~"
    · rw [run_changeTarget_home h write home]
      cases h.homeDir running.shell.environment running.host with
      | none => exact .inl ⟨_, rfl⟩
      | some home => exact .inr ⟨home, rfl⟩
    · rw [not_or] at home
      obtain ⟨directory, rfl⟩ := Option.ne_none_iff_exists'.mp home.1
      refine .inr ⟨directory, run_changeTarget_named h write ?_ ?_ running⟩
      · exact fun same => home.2 (congrArg some same)
      · exact fun same => other (congrArg some same)

inductive Goes (h : Host σ) (running : Running σ) (next : Running σ) : Except Halt Unit → Prop
  | stayed (e : ShellError) : next.places h = running.places h →
      Goes h running next (.error (.failed e))
  | went {before now : String} : h.currentDir running.host = .ok before →
      next.places h = { here := .ok now, pwd := some now, oldpwd := some before } →
      Goes h running next (.ok ())

theorem run_changeDir {h : Host σ} {writers : Writer σ → Prop} {running : Running σ}
    (steady : h.Steady writers running.host) {write : Writer σ} (known : writers write)
    (args : List String) :
    let (result, next) := (Builtin.runChangeDir h write args).run running
    h.Later writers running.host next.host ∧ Goes h running next result := by
  rw [Builtin.runChangeDir_eq]
  by_cases many : args.length > 1
  · rw [if_pos many]
    exact ⟨.now, .stayed _ rfl⟩
  · rw [if_neg many]
    obtain ⟨s, wrote, found⟩ := run_changeTarget h write args.head? running
    have reached : h.Later writers running.host s := by
      rcases wrote with rfl | ⟨text, rfl⟩
      · exact .now
      · exact .wrote text .now known
    have still : h.currentDir s = h.currentDir running.host := by
      rcases wrote with rfl | ⟨text, rfl⟩
      · rfl
      · exact steady.writes _ .now write known text
    rw [ShellM.run_bind]
    rcases found with ⟨e, failed⟩ | ⟨directory, found⟩
    · rw [failed]
      refine ⟨reached, .stayed e ?_⟩
      simp only [Running.places, still]
    · rw [found]
      dsimp only
      rcases run_goTo { running with host := s } (steady.later reached) directory with
        ⟨e, failed⟩ | ⟨before, t, now, here, entered, there, went⟩
      · rw [failed]
        refine ⟨reached, .stayed e ?_⟩
        simp only [Running.places, still]
      · have places := Running.places_moved h { running with host := s } t before now
        rw [there] at places
        rw [went]
        exact ⟨.entered directory reached entered, .went (still ▸ here) places⟩

/-- The shell came from one directory to another, and both variables say so. -/
structure Came (h : Host σ) (writers : Writer σ → Prop) (running : Running σ)
    (before now : String) : Prop where
  places : running.places h = { here := .ok now, pwd := some now, oldpwd := some before }
  origin : ∃ s, h.Steady writers s ∧ h.Later writers s running.host ∧ h.currentDir s = .ok before

/-- Going back succeeds, and swaps the two directories. -/
theorem run_back {h : Host σ} {writers : Writer σ → Prop} {running : Running σ}
    {before now : String} (came : Came h writers running before now) {write : Writer σ}
    (known : writers write) (works : ∀ text s, (write text s).1 = .ok ()) :
    ∃ next, (Builtin.runChangeDir h write ["-"]).run running = (.ok (), next) ∧
      Came h writers next now before := by
  obtain ⟨places, origin, steady, since, left⟩ := came
  obtain ⟨here, -, old⟩ := Places.mk.inj places
  let s := (write (before ++ "\n") running.host).2
  have reached : h.Later writers origin s := .wrote _ since known
  have still : h.currentDir s = .ok now := by
    rw [steady.writes _ since write known, here]
  obtain ⟨next, entered, there⟩ := steady.returns _ .now _ left s reached
  refine ⟨running.moved next now before, ?_, ?_⟩
  · rw [Builtin.runChangeDir_eq, if_neg (by decide), ShellM.run_bind, List.head?_cons,
      run_changeTarget_back, old]
    dsimp only
    rw [works]
    exact run_goTo_moves still entered there
  · refine ⟨?_, running.host, steady.later since, .entered _ (.wrote _ .now known) entered, here⟩
    rw [Running.places_moved, there]

/-- A run takes all places along its results, and if its last call succeeded the shell has come
from one directory to another. -/
theorem goAll_tour {h : Host σ} {writers : Writer σ → Prop} {calls : List (DirectoryCall σ)}
    (known : ∀ call ∈ calls, writers call.write) {running : Running σ}
    (steady : h.Steady writers running.host) :
    let (results, last) := goAll h calls running
    Tour (running.places h) results (last.places h) ∧
      (results.getLast? = some (.ok ()) → ∃ before now, Came h writers last before now) := by
  induction calls generalizing running with
  | nil => exact ⟨.done _, nofun⟩
  | cons call rest ih =>
      obtain ⟨first, others⟩ := List.forall_mem_cons.mp known
      have step := run_changeDir steady first call.args
      rw [goAll, Builtin.run]
      generalize (Builtin.runChangeDir h call.write call.args).run running = out at step ⊢
      obtain ⟨result, next⟩ := out
      obtain ⟨later, goes⟩ := step
      obtain ⟨tour, came⟩ := ih others (steady.later later)
      dsimp only at later goes tour came ⊢
      constructor
      · cases goes with
        | stayed e places => exact .stayed e (places ▸ tour)
        | went here places => exact .went here (places ▸ tour)
      -- The last call is this one if there are no others.
      · intro succeeded
        cases rest with
        | nil =>
            cases goes with
            | stayed => cases succeeded
            | went here places => exact ⟨_, _, places, running.host, steady, later, here⟩
        | cons second more =>
            obtain ⟨other, others, more⟩ : ∃ other others,
                (goAll h (second :: more) next).1 = other :: others := ⟨_, _, rfl⟩
            rw [more] at came succeeded
            exact came (List.getLast?_cons_cons ▸ succeeded)

/-- Changes of directory keep the directory and its variables in step. Whatever the calls of a run
are given and wherever they write, one that fails changes none of the three places, and one that
succeeds makes `PWD` the directory that it comes to and `OLDPWD` the one that it leaves. So after
one that succeeds, going back twice to a writer that works succeeds, and all three are as before. -/
theorem changes_keep_step (h : Host σ) (writers : Writer σ → Prop)
    (calls : List (DirectoryCall σ)) (known : ∀ call ∈ calls, writers call.write)
    (running : Running σ) (steady : h.Steady writers running.host) :
    let (results, last) := goAll h calls running
    Tour (running.places h) results (last.places h) ∧
      (results.getLast? = some (.ok ()) → ∀ write, writers write →
        (∀ text s, (write text s).1 = .ok ()) →
        let (back, again) := goAll h [⟨write, ["-"]⟩, ⟨write, ["-"]⟩] last
        back = [.ok (), .ok ()] ∧ again.places h = last.places h) := by
  have ran := goAll_tour known steady
  generalize goAll h calls running = out at ran ⊢
  obtain ⟨results, last⟩ := out
  refine ⟨ran.1, fun succeeded write writing works => ?_⟩
  obtain ⟨before, now, came⟩ := ran.2 succeeded
  obtain ⟨mid, back, there⟩ := run_back came writing works
  obtain ⟨again, forth, here⟩ := run_back there writing works
  simp only [goAll, Builtin.run, back, forth, true_and]
  exact here.places.trans came.places.symm

/-- A system with two directories, one of which has a second name. What was written is kept beside
which of them the shell is in. -/
def twoRooms : Host (Bool × List String) where
  homeDir env _ := env.get? "HOME"
  currentDir s := .ok (if s.1 then "/b" else "/a")
  enterDir path s :=
    if path = "/a" then .ok (false, s.2)
    else if path = "/b" ∨ path = "/alias" then .ok (true, s.2)
    else .error (.os .noEntry)
  readFile _ s := (.error (.os .noEntry), s)
  replaceFile _ _ s := (.ok (), s)
  isExecutable _ _ := false
  openInput _ s := (.ok 3, s)
  openOutput _ _ s := (.ok 3, s)
  write _ text s := (.ok (), s.1, text :: s.2)
  flush s := (.ok (), s)
  readLine _ _ s := (.ok none, s)
  start _ s := (.error (.os .noEntry), s)
  run _ s := (.error (.os .noEntry), s)
  probe _ s := (.ok .alive, s)
  shield s := s

def StaysInRoom (write : Writer (Bool × List String)) : Prop :=
  ∀ text s, (write text s).2.1 = s.1

theorem twoRooms_steady (start : Bool × List String) : twoRooms.Steady StaysInRoom start where
  writes s _ write stays text := by simp only [twoRooms, stays text s]
  lands _ _ _ next _ := ⟨_, rfl⟩
  returns s _ directory here t _ := by
    cases here
    cases inB : s.1 with
    | false => exact ⟨(false, t.2), by simp [twoRooms], rfl⟩
    | true => exact ⟨(true, t.2), by simp [twoRooms], rfl⟩

def visitor : Running (Bool × List String) where
  shell := { mode := .batch, environment := {}, history := { capacity := 0 } }
  host := (false, [])

/-- Calls of which the first and the last succeed: the others write to a closed writer, name no
directory and name too many. -/
def roomCalls : List (DirectoryCall (Bool × List String)) :=
  [⟨twoRooms.write Handle.output, ["/alias"]⟩, ⟨fun _ s => (.error .closed, s), ["-"]⟩,
    ⟨twoRooms.write Handle.output, ["/c"]⟩, ⟨twoRooms.write Handle.output, ["/a", "/b"]⟩,
    ⟨twoRooms.write Handle.output, ["-"]⟩]

theorem changes_keep_step_rooms :
    (∀ call ∈ roomCalls, StaysInRoom call.write) ∧
    twoRooms.Steady StaysInRoom visitor.host ∧
    (goAll twoRooms roomCalls visitor).1.getLast? = some (.ok ()) ∧
    Tour { here := .ok "/a", pwd := none, oldpwd := none } (goAll twoRooms roomCalls visitor).1
      { here := .ok "/a", pwd := some "/a", oldpwd := some "/b" } ∧
    let back : DirectoryCall (Bool × List String) := ⟨twoRooms.write Handle.output, ["-"]⟩
    (goAll twoRooms [back, back] (goAll twoRooms roomCalls visitor).2).2.places twoRooms =
      { here := .ok "/a", pwd := some "/a", oldpwd := some "/b" } := by
  have known : ∀ call ∈ roomCalls, StaysInRoom call.write := by
    intro call mem
    simp only [roomCalls, List.mem_cons, List.not_mem_nil, or_false] at mem
    rcases mem with rfl | rfl | rfl | rfl | rfl <;> exact fun _ _ => rfl
  have steady := twoRooms_steady visitor.host
  have last : (goAll twoRooms roomCalls visitor).1.getLast? = some (.ok ()) := by rfl
  have places : (goAll twoRooms roomCalls visitor).2.places twoRooms =
      { here := .ok "/a", pwd := some "/a", oldpwd := some "/b" } := by rfl
  obtain ⟨tour, restored⟩ := changes_keep_step twoRooms StaysInRoom roomCalls known visitor steady
  obtain ⟨-, same⟩ := restored last (twoRooms.write Handle.output) (fun _ _ => rfl) fun _ _ => rfl
  exact ⟨known, steady, last, places ▸ tour, same.trans places⟩

end LineShell
