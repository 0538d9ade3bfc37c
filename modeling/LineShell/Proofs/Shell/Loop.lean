import LineShell.Interactive
import LineShell.Proofs.Shell.Frame

/-!
How the loop of an interactive shell ends. A turn that begins in a directory that is there reads a
line, so as many turns are enough as there are lines, and one more. A turn that begins where the
directory is gone reads nothing and changes nothing: from there on the loop turns for ever.
-/
namespace LineShell
variable {σ : Type}

/-- A system whose input runs dry. A line that is read is gone, even if it cannot be made out, and
nothing else puts a line back; programs may take some. -/
structure Host.RunsDry (h : Host σ) (left : σ → Nat) : Prop where
  readLine : ∀ shown prompt s,
    (h.readLine shown prompt s).1 = .ok none ∨ left (h.readLine shown prompt s).2 < left s
  enterDir : ∀ path s next, h.enterDir path s = .ok next → left next ≤ left s
  replaceFile : ∀ path bytes s, left (h.replaceFile path bytes s).2 ≤ left s
  openInput : ∀ path s, left (h.openInput path s).2 ≤ left s
  openOutput : ∀ append path s, left (h.openOutput append path s).2 ≤ left s
  write : ∀ handle text s, left (h.write handle text s).2 ≤ left s
  flush : ∀ s, left (h.flush s).2 ≤ left s
  start : ∀ program s, left (h.start program s).2 ≤ left s
  run : ∀ program s, left (h.run program s).2 ≤ left s
  probe : ∀ pid s, left (h.probe pid s).2 ≤ left s

def Running.Placed (h : Host σ) (running : Running σ) : Prop :=
  ∃ directory, h.currentDir running.host = .ok directory

def Running.Lost (h : Host σ) (running : Running σ) : Prop :=
  ∃ e, h.currentDir running.host = .error e

theorem placed_or_lost (h : Host σ) (running : Running σ) :
    running.Placed h ∨ running.Lost h := by
  unfold Running.Placed Running.Lost
  cases h.currentDir running.host with
  | ok directory => exact .inl ⟨directory, rfl⟩
  | error e => exact .inr ⟨e, rfl⟩

namespace Host.RunsDry
variable {h : Host σ} {left : σ → Nat} (dry : h.RunsDry left)
include dry

theorem frame : Frame h (fun a b => left b.host ≤ left a.host)
    fun _ a b => left b.host ≤ left a.host where
  trans hab hbc := Nat.le_trans hbc hab
  stop hab hbc := Nat.le_trans hbc hab
  shell _ _ _ _ := Nat.le_refl _
  enterDir a path := dry.enterDir path a.host
  openInput a path := dry.openInput path a.host
  openOutput a append path := dry.openOutput append path a.host
  write a handle text := dry.write handle text a.host
  flush a := dry.flush a.host
  start a program := dry.start program a.host
  run a program := dry.run program a.host
  probe a pid := dry.probe pid a.host

theorem parting : Parting h fun _ a b => left b.host ≤ left a.host where
  exits a code := by
    unfold ShellM.save
    split
    · exact dry.replaceFile _ _ _
    · exact Nat.le_refl _
  breaks a handle text := dry.write handle text a.host

theorem execute (text : String) (running : Running σ) :
    left (LineShell.execute h text running).2.host ≤ left running.host := by
  by_cases blank : effective text = ""
  · rw [execute_blank h blank]
  · have kept := dry.frame.executes blank running fun _ => dry.parting
    generalize LineShell.execute h text running = out at kept ⊢
    cases kept with
    | ok less | failed less | exited less | broken less => exact less

end Host.RunsDry

/-- A turn in a lost directory does nothing. -/
theorem turn_lost {h : Host σ} {running : Running σ} (lost : running.Lost h) :
    turn h running = (.again, running) := by
  obtain ⟨e, gone⟩ := lost
  rw [turn, gone]

/-- A turn that goes on has read a line. -/
theorem turn_placed {h : Host σ} {left : σ → Nat} (dry : h.RunsDry left) {running : Running σ}
    (placed : running.Placed h) (again : (turn h running).1 = .again) :
    left (turn h running).2.host < left running.host := by
  obtain ⟨directory, here⟩ := placed
  have read := dry.readLine running.shell.mode.promptShown (prompt h directory running) running.host
  rw [turn, here] at again ⊢
  dsimp only at again ⊢
  generalize h.readLine running.shell.mode.promptShown _ running.host = out at read again ⊢
  obtain ⟨e | _ | typed, s⟩ := out
  · exact read.resolve_left nofun
  · contradiction
  · have less := read.resolve_left nofun
    dsimp only at again ⊢
    cases meant : Text.typedLine? typed with
    | none =>
        rw [meant] at again
        contradiction
    | some line =>
        rw [meant] at again
        dsimp only at again less ⊢
        have ran := dry.execute line { running with host := s }
        generalize execute h line { running with host := s } = result at ran again ⊢
        obtain ⟨(e | code | _) | _, next⟩ := result
        · have told := dry.write Handle.errors (e.report ++ "\n") next.host
          dsimp only at again ⊢
          rw [run_report] at again ⊢
          generalize h.write Handle.errors (e.report ++ "\n") next.host = out at told again ⊢
          obtain ⟨_ | _, last⟩ := out
          · contradiction
          · exact Nat.lt_of_le_of_lt (Nat.le_trans told ran) less
        · contradiction
        · contradiction
        · exact Nat.lt_of_le_of_lt ran less

theorem interact_succ (h : Host σ) (turns : Nat) (running : Running σ) :
    interact h (turns + 1) running =
      if (turn h running).1 = .again then interact h turns (turn h running).2
      else (some (turn h running).1, (turn h running).2) := by
  rw [interact]
  generalize turn h running = out
  obtain ⟨outcome, next⟩ := out
  cases outcome <;> rfl

theorem interact_add (h : Host σ) (turns more : Nat) (running : Running σ) :
    interact h (turns + more) running =
      match interact h turns running with
      | (none, mid) => interact h more mid
      | (some outcome, last) => (some outcome, last) := by
  induction turns generalizing running with
  | zero => rw [Nat.zero_add, interact]
  | succ turns ih =>
      rw [Nat.add_right_comm, interact_succ, interact_succ]
      split
      · exact ih _
      · rfl

theorem interact_lost {h : Host σ} {running : Running σ} (lost : running.Lost h) (turns : Nat) :
    interact h turns running = (none, running) := by
  induction turns with
  | zero => rfl
  | succ turns ih => rw [interact_succ, turn_lost lost, if_pos rfl, ih]

/-- As long as no turn begins in a lost directory, each turn that goes on has used up a line. -/
theorem interact_none {h : Host σ} {left : σ → Nat} (dry : h.RunsDry left) {turns : Nat}
    {running last : Running σ} (unfinished : interact h turns running = (none, last))
    (placed : ∀ turns mid, interact h turns running = (none, mid) → mid.Placed h) :
    left last.host + turns ≤ left running.host := by
  induction turns generalizing running with
  | zero =>
      cases unfinished
      exact Nat.le_refl _
  | succ turns ih =>
      rw [interact_succ] at unfinished
      split at unfinished
      · next again =>
          have less := turn_placed dry (placed 0 running rfl) again
          have later := ih unfinished fun turns mid reached => placed (turns + 1) mid (by
            rw [interact_succ, if_pos again, reached])
          omega
      · cases unfinished

/-- When the loop ends. A turn either stops it or reads a line just if it begins in a directory that
is there. So with so many lines the loop has stopped after one turn more, just if no turn of it
begins in a lost directory; once one does, the loop turns for ever and leaves everything as it is,
the lines that are still to be read among it. -/
theorem interact_ends_iff (h : Host σ) (left : σ → Nat) (dry : h.RunsDry left) :
    (∀ running : Running σ, ((turn h running).1 = .again →
      left (turn h running).2.host < left running.host) ↔ running.Placed h) ∧
    (∀ running : Running σ, (interact h (left running.host + 1) running).1 ≠ none ↔
      ∀ turns mid, interact h turns running = (none, mid) → mid.Placed h) ∧
    (∀ (running mid : Running σ) turns, interact h turns running = (none, mid) → mid.Lost h →
      ∀ more, interact h (turns + more) running = (none, mid)) := by
  have stays (running mid : Running σ) turns (reached : interact h turns running = (none, mid))
      (lost : mid.Lost h) more : interact h (turns + more) running = (none, mid) := by
    rw [interact_add, reached]
    exact interact_lost lost more
  refine ⟨fun running => ⟨fun reads => ?_, turn_placed dry⟩, fun running => ⟨?_, ?_⟩, stays⟩
  · refine (placed_or_lost h running).resolve_right fun lost => ?_
    rw [turn_lost lost] at reads
    exact Nat.lt_irrefl _ (reads rfl)
  -- A lost directory would keep the loop turning beyond any number of turns.
  · intro stopped turns mid reached
    refine (placed_or_lost h mid).resolve_right fun lost => stopped ?_
    have longer := stays running mid turns reached lost (left running.host + 1)
    rw [Nat.add_comm turns, interact_add] at longer
    generalize interact h (left running.host + 1) running = out at longer ⊢
    obtain ⟨_ | outcome, last⟩ := out
    · rfl
    · cases longer
  · intro placed unfinished
    have used := interact_none dry (Prod.ext unfinished rfl) placed
    omega

/-- A system in which the only program takes the working directory away. The lines of the input are
kept beside whether it is still there. -/
def quicksand : Host (Bool × List String) where
  homeDir env _ := env.get? "HOME"
  currentDir s := if s.1 then .ok "/d" else .error (.os .noEntry)
  enterDir _ s := .ok s
  readFile _ s := (.error (.os .noEntry), s)
  replaceFile _ _ s := (.ok (), s)
  isExecutable _ _ := true
  openInput _ s := (.ok 3, s)
  openOutput _ _ s := (.ok 3, s)
  write _ _ s := (.ok (), s)
  flush s := (.ok (), s)
  readLine _ _ s := (.ok s.2.head?, s.1, s.2.tail)
  start _ s := (.ok 7, s)
  run _ s := (.ok .success, false, s.2)
  probe _ s := (.ok .alive, s)
  shield s := s

theorem quicksand_runsDry : quicksand.RunsDry fun s => s.2.length where
  readLine _ _ s := by
    obtain ⟨here, _ | ⟨line, rest⟩⟩ := s
    · exact .inl rfl
    · exact .inr (Nat.lt_succ_self _)
  enterDir _ s next entered := by
    cases entered
    exact Nat.le_refl _
  replaceFile _ _ _ := Nat.le_refl _
  openInput _ _ := Nat.le_refl _
  openOutput _ _ _ := Nat.le_refl _
  write _ _ _ := Nat.le_refl _
  flush _ := Nat.le_refl _
  start _ _ := Nat.le_refl _
  run _ _ := Nat.le_refl _
  probe _ _ := Nat.le_refl _

def sinking : Running (Bool × List String) where
  shell := { mode := .interactive 100 false, environment := {}, history := { capacity := 100 } }
  host := (true, ["/rmdir\n", "pwd\n"])

/-- The second line is never read, however long the loop turns. -/
theorem interact_ends_iff_sinking :
    quicksand.RunsDry (fun s => s.2.length) ∧
    (interact quicksand 3 sinking).1 = none ∧
    ∀ more, (interact quicksand (1 + more) sinking).1 = none ∧
      (interact quicksand (1 + more) sinking).2.host = (false, ["pwd\n"]) := by
  obtain ⟨-, -, stays⟩ := interact_ends_iff quicksand _ quicksand_runsDry
  have reached : (interact quicksand 1 sinking).1 = none := by decide +kernel
  have left : (interact quicksand 1 sinking).2.host = (false, ["pwd\n"]) := by decide +kernel
  have lost : (interact quicksand 1 sinking).2.Lost quicksand := by
    refine ⟨.os .noEntry, ?_⟩
    rw [left]
    rfl
  have all more := stays sinking _ 1 (Prod.ext reached rfl) lost more
  refine ⟨quicksand_runsDry, by rw [all 2], fun more => ?_⟩
  rw [all more]
  exact ⟨rfl, left⟩

end LineShell
