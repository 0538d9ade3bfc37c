import LineShell.Proofs.Shell.Loop
import LineShell.Proofs.Shell.Places

/-!
When a change of directory fails. It does so for a fault of its own: too many arguments, no name for
the directory, or a directory that cannot be entered. It also fails where the working directory has
no path, before the change or after it. So a shell whose directory is gone is stranded there, even
if there are directories to go to.
-/
namespace LineShell
variable {σ : Type}

/-- Where arguments lead, and the state of the system once this is known: going back writes it. -/
inductive LeadsTo (h : Host σ) (write : Writer σ) (running : Running σ) :
    List String → String → σ → Prop
  | home {args : List String} {directory : String} : args = [] ∨ args = ["~"] →
      h.homeDir running.shell.environment running.host = some directory →
      LeadsTo h write running args directory running.host
  | back {directory : String} : running.shell.environment.get? "OLDPWD" = some directory →
      LeadsTo h write running ["-"] directory (write (directory ++ "\n") running.host).2
  | named {directory : String} : directory ≠ "~" → directory ≠ "-" →
      LeadsTo h write running [directory] directory running.host

inductive Nameless (h : Host σ) (running : Running σ) : List String → Prop
  | home {args : List String} : args = [] ∨ args = ["~"] →
      h.homeDir running.shell.environment running.host = none → Nameless h running args
  | back : running.shell.environment.get? "OLDPWD" = none → Nameless h running ["-"]

inductive Fault (h : Host σ) (write : Writer σ) (running : Running σ) (args : List String) : Prop
  | tooMany : 1 < args.length → Fault h write running args
  | nameless : Nameless h running args → Fault h write running args
  | closed {directory : String} {s : σ} {e : IoError} : LeadsTo h write running args directory s →
      h.enterDir directory s = .error e → Fault h write running args

/-- The directory can be entered, but there is no path to it, or there is none to the directory that
is to be left. -/
inductive Astray (h : Host σ) (write : Writer σ) (running : Running σ) (args : List String) : Prop
  | before {directory : String} {s t : σ} {e : IoError} : LeadsTo h write running args directory s →
      h.enterDir directory s = .ok t → h.currentDir s = .error e → Astray h write running args
  | after {directory : String} {s t : σ} {e : IoError} : LeadsTo h write running args directory s →
      h.enterDir directory s = .ok t → h.currentDir t = .error e → Astray h write running args

inductive Arrives (h : Host σ) (write : Writer σ) (running : Running σ) (args : List String) :
    Running σ → Prop
  | intro {directory before now : String} {s t : σ} : LeadsTo h write running args directory s →
      h.currentDir s = .ok before → h.enterDir directory s = .ok t → h.currentDir t = .ok now →
      Arrives h write running args (Running.moved { running with host := s } t before now)

section
variable {h : Host σ} {write : Writer σ} {running : Running σ} {args : List String}

theorem LeadsTo.length_le {directory : String} {s : σ}
    (leads : LeadsTo h write running args directory s) : args.length ≤ 1 := by
  cases leads with
  | home few => rcases few with rfl | rfl <;> decide
  | back | named => exact Nat.le_refl 1

theorem head?_home (few : args = [] ∨ args = ["~"]) : args.head? = none ∨ args.head? = some "~" :=
  few.imp (congrArg List.head?) (congrArg List.head?)

theorem LeadsTo.run (works : ∀ text s, (write text s).1 = .ok ()) {directory : String} {s : σ}
    (leads : LeadsTo h write running args directory s) :
    (Builtin.changeTarget h write args.head?).run running =
      (.ok directory, { running with host := s }) := by
  cases leads with
  | home few named => rw [run_changeTarget_home h write (head?_home few), named]
  | back named =>
      rw [List.head?_cons, run_changeTarget_back, named]
      dsimp only
      rw [works]
      rfl
  | named noTilde noDash => exact run_changeTarget_named h write noTilde noDash running

theorem Nameless.run (write : Writer σ) (nameless : Nameless h running args) :
    ∃ e, (Builtin.changeTarget h write args.head?).run running =
      (.error (.failed e), running) := by
  cases nameless with
  | home few unset => exact ⟨_, by rw [run_changeTarget_home h write (head?_home few), unset]⟩
  | back unset => exact ⟨_, by rw [List.head?_cons, run_changeTarget_back, unset]⟩

theorem nameless_or_leadsTo (h : Host σ) (write : Writer σ) (running : Running σ)
    (few : args.length ≤ 1) :
    Nameless h running args ∨ ∃ directory s, LeadsTo h write running args directory s := by
  have home (few : args = [] ∨ args = ["~"]) :
      Nameless h running args ∨ ∃ directory s, LeadsTo h write running args directory s := by
    cases named : h.homeDir running.shell.environment running.host with
    | none => exact .inl (.home few named)
    | some directory => exact .inr ⟨directory, _, .home few named⟩
  match args, few with
  | [], _ => exact home (.inl rfl)
  | [arg], _ =>
      by_cases tilde : arg = "~"
      · exact home (.inr (by rw [tilde]))
      by_cases dash : arg = "-"
      · subst dash
        cases named : running.shell.environment.get? "OLDPWD" with
        | none => exact .inl (.back named)
        | some directory => exact .inr ⟨directory, _, .back named⟩
      · exact .inr ⟨arg, _, .named tilde dash⟩

theorem LeadsTo.unique (works : ∀ text s, (write text s).1 = .ok ()) {directory other : String}
    {s t : σ} (leads : LeadsTo h write running args directory s)
    (leads' : LeadsTo h write running args other t) : directory = other ∧ s = t := by
  have same := (leads.run works).symm.trans (leads'.run works)
  cases same
  exact ⟨rfl, rfl⟩

theorem LeadsTo.run_changeDir (h : Host σ) (works : ∀ text s, (write text s).1 = .ok ())
    {directory : String} {s : σ} (leads : LeadsTo h write running args directory s) :
    (Builtin.runChangeDir h write args).run running =
      (Builtin.goTo h directory).run { running with host := s } := by
  have few := leads.length_le
  rw [Builtin.runChangeDir_eq, if_neg (by omega), ShellM.run_bind, leads.run works]

/-- A change of directory fails for a fault of its own, fails because the shell is astray, or
arrives. -/
theorem changeDir_cases (h : Host σ) (works : ∀ text s, (write text s).1 = .ok ())
    (running : Running σ) (args : List String) :
    let (result, next) := (Builtin.runChangeDir h write args).run running
    ((Fault h write running args ∨ Astray h write running args) ∧
      ∃ e, result = .error (.failed e)) ∨
    (Arrives h write running args next ∧ result = .ok ()) := by
  by_cases many : 1 < args.length
  · rw [Builtin.runChangeDir_eq, if_pos many]
    exact .inl ⟨.inl (.tooMany many), _, rfl⟩
  obtain nameless | ⟨directory, s, leads⟩ :=
    nameless_or_leadsTo h write running (Nat.not_lt.mp many)
  · obtain ⟨e, failed⟩ := nameless.run write
    rw [Builtin.runChangeDir_eq, if_neg many, ShellM.run_bind, failed]
    exact .inl ⟨.inl (.nameless nameless), e, rfl⟩
  rw [leads.run_changeDir h works, run_goTo_eq]
  cases entered : h.enterDir directory s with
  | error e =>
      refine .inl ⟨.inl (.closed leads entered), ?_⟩
      cases h.currentDir s <;> exact ⟨_, rfl⟩
  | ok t =>
      cases here : h.currentDir s with
      | error e => exact .inl ⟨.inr (.before leads entered here), _, rfl⟩
      | ok before =>
          dsimp only
          cases there : h.currentDir t with
          | error e => exact .inl ⟨.inr (.after leads entered there), _, rfl⟩
          | ok now => exact .inr ⟨.intro leads here entered there, rfl⟩

theorem Fault.not_entered (works : ∀ text s, (write text s).1 = .ok ())
    (fault : Fault h write running args) {directory : String} {s t : σ}
    (leads : LeadsTo h write running args directory s) : h.enterDir directory s ≠ .ok t := by
  intro entered
  cases fault with
  | tooMany many =>
      have few := leads.length_le
      omega
  | nameless nameless =>
      obtain ⟨e, failed⟩ := nameless.run write
      rw [leads.run works] at failed
      cases failed
  | closed leads' closed =>
      obtain ⟨rfl, rfl⟩ := leads.unique works leads'
      rw [entered] at closed
      cases closed

theorem Fault.not_astray (works : ∀ text s, (write text s).1 = .ok ())
    (fault : Fault h write running args) : ¬Astray h write running args := by
  intro astray
  cases astray with
  | before leads entered _ | after leads entered _ => exact fault.not_entered works leads entered

theorem Arrives.not_fault (works : ∀ text s, (write text s).1 = .ok ()) {next : Running σ}
    (arrives : Arrives h write running args next) : ¬Fault h write running args := by
  intro fault
  cases arrives with
  | intro leads _ entered _ => exact fault.not_entered works leads entered

theorem Arrives.not_astray (works : ∀ text s, (write text s).1 = .ok ()) {next : Running σ}
    (arrives : Arrives h write running args next) : ¬Astray h write running args := by
  intro astray
  obtain ⟨leads, here, entered, there⟩ := arrives
  cases astray with
  | before leads' _ lost =>
      obtain ⟨rfl, rfl⟩ := leads.unique works leads'
      rw [here] at lost
      cases lost
  | after leads' entered' lost =>
      obtain ⟨rfl, rfl⟩ := leads.unique works leads'
      rw [entered] at entered'
      cases entered'
      rw [there] at lost
      cases lost

end

/-- A shell whose directory is gone fails to change it, and leaves all as it is but for what it
writes. -/
theorem run_changeDir_lost {h : Host σ} {write : Writer σ} {running : Running σ}
    (still : ∀ text s, h.currentDir (write text s).2 = h.currentDir s) (lost : running.Lost h)
    (args : List String) :
    ∃ e s, (Builtin.runChangeDir h write args).run running =
        (.error (.failed e), { running with host := s }) ∧
      h.currentDir s = h.currentDir running.host := by
  rw [Builtin.runChangeDir_eq]
  split
  · exact ⟨_, running.host, rfl, rfl⟩
  obtain ⟨s, wrote, found⟩ := run_changeTarget h write args.head? running
  have same : h.currentDir s = h.currentDir running.host := by
    rcases wrote with rfl | ⟨text, rfl⟩
    · rfl
    · exact still text _
  rw [ShellM.run_bind]
  rcases found with ⟨e, failed⟩ | ⟨directory, found⟩
  · exact ⟨e, s, by rw [failed], same⟩
  · obtain ⟨e, gone⟩ := lost
    refine ⟨.io e, s, ?_, same⟩
    rw [found]
    dsimp only
    rw [run_goTo_eq, same, gone]

/-- No calls lead out of a directory that is gone. -/
theorem goAll_lost {h : Host σ} {calls : List (DirectoryCall σ)}
    (still : ∀ call ∈ calls, ∀ text s, h.currentDir (call.write text s).2 = h.currentDir s)
    {running : Running σ} (lost : running.Lost h) :
    let (results, last) := goAll h calls running
    (∀ result ∈ results, ∃ e, result = .error (.failed e)) ∧
      last.places h = running.places h := by
  induction calls generalizing running with
  | nil => exact ⟨nofun, rfl⟩
  | cons call rest ih =>
      obtain ⟨first, others⟩ := List.forall_mem_cons.mp still
      obtain ⟨e, s, failed, same⟩ := run_changeDir_lost first lost call.args
      have lost' : Running.Lost h { running with host := s } := by
        obtain ⟨cause, gone⟩ := lost
        exact ⟨cause, same.trans gone⟩
      obtain ⟨all, stays⟩ := ih others lost'
      rw [goAll, Builtin.run, failed]
      refine ⟨List.forall_mem_cons.mpr ⟨⟨e, rfl⟩, all⟩, stays.trans ?_⟩
      simp only [Running.places, same]

/-- The name of a directory that can be entered is followed as soon as the directory that is left
has a path, and this is a success just if the new one has a path too. -/
theorem run_changeDir_entered {h : Host σ} {write : Writer σ}
    (works : ∀ text s, (write text s).1 = .ok ()) {running : Running σ} {directory : String} {t : σ}
    (noTilde : directory ≠ "~") (noDash : directory ≠ "-")
    (entered : h.enterDir directory running.host = .ok t) :
    let (result, next) := (Builtin.runChangeDir h write [directory]).run running
    (running.Placed h → next.host = t) ∧ (running.Lost h → next = running) ∧
      (result = .ok () ↔ running.Placed h ∧ ∃ now, h.currentDir t = .ok now) := by
  have leads : LeadsTo h write running [directory] directory running.host := .named noTilde noDash
  rw [leads.run_changeDir h works, run_goTo_eq, entered]
  unfold Running.Placed Running.Lost
  cases h.currentDir running.host with
  | error e => exact ⟨nofun, fun _ => rfl, nofun, fun ⟨⟨_, here⟩, _⟩ => nomatch here⟩
  | ok before =>
      dsimp only
      cases h.currentDir t with
      | error e => exact ⟨fun _ => rfl, nofun, nofun, fun ⟨_, _, there⟩ => nomatch there⟩
      | ok now => exact ⟨fun _ => rfl, nofun, iff_of_true rfl ⟨⟨before, rfl⟩, now, rfl⟩⟩

/-- When a change of directory fails, with a writer that works. It fails for a fault of its own or
because the shell is astray, and otherwise it arrives, so that only its own faults count just as
long as the shell is not astray. A directory that can be entered is reached by its name from
wherever there is a path. From a directory that is gone no calls lead anywhere. -/
theorem changeDir_fails_iff (h : Host σ) :
    (∀ (write : Writer σ) (running : Running σ) (args : List String),
      (∀ text s, (write text s).1 = .ok ()) →
      let (result, next) := (Builtin.changeDir.run h write args).run running
      ((∃ e, result = .error (.failed e)) ↔
        Fault h write running args ∨ Astray h write running args) ∧
      (((∃ e, result = .error (.failed e)) ↔ Fault h write running args) ↔
        ¬Astray h write running args) ∧
      (result = .ok () ↔ Arrives h write running args next)) ∧
    (∀ (write : Writer σ) (running : Running σ) (directory : String) (t : σ),
      (∀ text s, (write text s).1 = .ok ()) → directory ≠ "~" → directory ≠ "-" →
      h.enterDir directory running.host = .ok t →
      let (result, next) := (Builtin.changeDir.run h write [directory]).run running
      (running.Placed h → next.host = t) ∧ (running.Lost h → next = running) ∧
        (result = .ok () ↔ running.Placed h ∧ ∃ now, h.currentDir t = .ok now)) ∧
    (∀ (calls : List (DirectoryCall σ)) (running : Running σ),
      (∀ call ∈ calls, ∀ text s, h.currentDir (call.write text s).2 = h.currentDir s) →
      running.Lost h →
      let (results, last) := goAll h calls running
      (∀ result ∈ results, ∃ e, result = .error (.failed e)) ∧
        last.places h = running.places h) := by
  refine ⟨fun write running args works => ?_,
    fun write running directory t works noTilde noDash entered =>
      run_changeDir_entered works noTilde noDash entered,
    fun calls running still lost => goAll_lost still lost⟩
  have ways := changeDir_cases h works running args
  rw [Builtin.run]
  generalize (Builtin.runChangeDir h write args).run running = out at ways ⊢
  obtain ⟨result, next⟩ := out
  dsimp only at ways ⊢
  have refused (e : ShellError) : (.error (.failed e) : Except Halt Unit) ≠ .ok () := by simp
  have went : ¬∃ e, (.ok () : Except Halt Unit) = .error (.failed e) := by simp
  rcases ways with ⟨fault | astray, e, rfl⟩ | ⟨arrives, rfl⟩
  · refine ⟨iff_of_true ⟨e, rfl⟩ (.inl fault), iff_of_true (iff_of_true ⟨e, rfl⟩ fault) ?_,
      iff_of_false (refused e) fun arrives => arrives.not_fault works fault⟩
    exact fault.not_astray works
  · have noFault : ¬Fault h write running args := fun fault => fault.not_astray works astray
    refine ⟨iff_of_true ⟨e, rfl⟩ (.inr astray), iff_of_false ?_ (not_not.mpr astray),
      iff_of_false (refused e) fun arrives => arrives.not_astray works astray⟩
    exact fun only => noFault (only.mp ⟨e, rfl⟩)
  · have noFault := arrives.not_fault works
    have noAstray := arrives.not_astray works
    exact ⟨iff_of_false went (not_or.mpr ⟨noFault, noAstray⟩),
      iff_of_true (iff_of_false went noFault) noAstray, iff_of_true rfl arrives⟩

/-- A system with a directory below the root, which the only program takes away. The state says
whether the directory is there and whether the shell is in it. -/
def trapdoor : Host (Bool × Bool) where
  homeDir env _ := env.get? "HOME"
  currentDir
    | (_, false) => .ok "/"
    | (true, true) => .ok "/d"
    | (false, true) => .error (.os .noEntry)
  enterDir path s :=
    if path = "/" then .ok (s.1, false)
    else if path = "/d" ∧ s.1 then .ok (true, true)
    else .error (.os .noEntry)
  readFile _ s := (.error (.os .noEntry), s)
  replaceFile _ _ s := (.ok (), s)
  isExecutable _ _ := true
  openInput _ s := (.ok 3, s)
  openOutput _ _ s := (.ok 3, s)
  write _ _ s := (.ok (), s)
  flush s := (.ok (), s)
  readLine _ _ s := (.ok none, s)
  start _ s := (.ok 7, s)
  run _ s := (.ok .success, false, s.2)
  probe _ s := (.ok .alive, s)
  shield s := s

def climber : Running (Bool × Bool) where
  shell := { mode := .batch, environment := {}, history := { capacity := 0 } }
  host := (true, true)

def fallen : Running (Bool × Bool) :=
  (execute trapdoor "/rmdir" climber).2

/-- The shell could enter the root before the directory was taken away, and it still could, but it
does not go there any more. -/
theorem changeDir_fails_iff_fallen :
    let write := trapdoor.write Handle.output
    (∀ text s, (write text s).1 = .ok ()) ∧
    trapdoor.enterDir "/" climber.host = .ok (true, false) ∧
    ((Builtin.changeDir.run trapdoor write ["/"]).run climber).1 = .ok () ∧
    fallen.Lost trapdoor ∧
    trapdoor.enterDir "/" fallen.host = .ok (false, false) ∧
    Astray trapdoor write fallen ["/"] ∧ ¬Fault trapdoor write fallen ["/"] ∧
    (∃ e, ((Builtin.changeDir.run trapdoor write ["/"]).run fallen).1 = .error (.failed e)) ∧
    ∀ routes : List (List String),
      ∀ result ∈ (goAll trapdoor (routes.map fun args => ⟨write, args⟩) fallen).1,
        ∃ e, result = .error (.failed e) := by
  intro write
  have works : ∀ text s, (write text s).1 = .ok () := fun _ _ => rfl
  have gone : fallen.host = (false, true) := by decide +kernel
  have nowhere : trapdoor.currentDir fallen.host = .error (.os .noEntry) := by rw [gone]; rfl
  have lost : fallen.Lost trapdoor := ⟨_, nowhere⟩
  have still : trapdoor.enterDir "/" fallen.host = .ok (false, false) := by rw [gone]; rfl
  have astray : Astray trapdoor write fallen ["/"] :=
    .before (.named (by decide) (by decide)) still nowhere
  obtain ⟨fails, reaches, stranded⟩ := changeDir_fails_iff trapdoor
  obtain ⟨failed, only, -⟩ := fails write fallen ["/"] works
  obtain ⟨-, -, before⟩ :=
    reaches write climber "/" (true, false) works (by decide) (by decide) rfl
  have noWay := failed.mpr (.inr astray)
  refine ⟨works, rfl, before.mpr ⟨⟨"/d", rfl⟩, "/", rfl⟩, lost, still, astray,
    fun fault => only.mp (iff_of_true noWay fault) astray, noWay, fun routes => ?_⟩
  refine (stranded _ fallen (fun call mem text s => ?_) lost).1
  obtain ⟨args, -, rfl⟩ := List.mem_map.mp mem
  rfl

end LineShell
