import LineShell.CommandLine
import LineShell.Proofs.Shell.Frame

/-!
A shell's work as the lines that it ran, whatever happened to the system in between. A list of lines
that is run to its end is such work; so is an interactive shell that reads its lines one by one, and
if it ends with a code, this is a session.
-/
namespace LineShell
variable {σ : Type}

/-- A shell at work. It runs lines one after another; before each of them and after the last,
anything may happen to the system. -/
inductive Works (h : Host σ) : Running σ → List String → Running σ → Prop where
  | rest (a : Running σ) : Works h a [] a
  | meanwhile {a b : Running σ} {lines : List String} (host : σ) :
      Works h { a with host } lines b → Works h a lines b
  | runs {a b : Running σ} {line : String} {lines : List String} :
      Stays (execute h line a).1 → Works h (execute h line a).2 lines b →
      Works h a (line :: lines) b

/-- A shell's work to its end: it leaves, or the last of the lines ends it. -/
inductive Session (h : Host σ) (a : Running σ) : List String → Running σ → Prop where
  | left {b c : Running σ} {lines : List String} {code : Nat} (status : Option WaitStatus) :
      Works h a lines b →
      (ShellM.quit h status : ShellM σ Unit).run b = (.error (.exited code), c) →
      Session h a lines c
  | exited {b c : Running σ} {line : String} {lines : List String} {code : Nat} :
      Works h a lines b → execute h line b = (.error (.exited code), c) →
      Session h a (lines ++ [line]) c

theorem works_append {h : Host σ} {a b c : Running σ} {front back : List String}
    (first : Works h a front b) (second : Works h b back c) : Works h a (front ++ back) c := by
  induction first with
  | rest a => exact second
  | meanwhile host _ ih => exact .meanwhile host (ih second)
  | runs on _ ih => exact .runs on (ih second)

theorem works_executeAll (h : Host σ) {lines : List String} {a : Running σ}
    (on : Stays (executeAll h lines a).1) : Works h a lines (executeAll h lines a).2 := by
  induction lines generalizing a with
  | nil => exact .rest a
  | cons line rest ih =>
      have run : Stays (execute h line a).1 →
          ∀ b, Works h (execute h line a).2 rest b → Works h a (line :: rest) b :=
        fun on b => Works.runs on
      rw [executeAll] at on ⊢
      generalize execute h line a = out at run on ⊢
      obtain ⟨(e | code | _) | _, next⟩ := out
      · obtain ⟨host, told | broken⟩ := report_cases h e next
        · simp only [told] at on ⊢
          exact run (.failed e) _ (.meanwhile host (ih on))
        · simp only [broken] at on
          nomatch on
      · nomatch on
      · nomatch on
      · exact run (.ok ()) _ (ih on)

theorem session_append {h : Host σ} {a b c : Running σ} {front back : List String}
    (first : Works h a front b) (second : Session h b back c) : Session h a (front ++ back) c := by
  cases second with
  | left status works quits => exact .left status (works_append first works) quits
  | exited works ends =>
      rw [← List.append_assoc]
      exact .exited (works_append first works) ends

/-- What turns of the loop come to, the outcome missing if they are not over: the line run last ends
the shell, the shell breaks off, or it is still at work. -/
inductive Turns (h : Host σ) (a : Running σ) : Option Turn → Running σ → Prop where
  | exited {code : Nat} {lines : List String} {b : Running σ} :
      Session h a lines b → Turns h a (some (.exited code)) b
  | broken (b : Running σ) : Turns h a (some .broken) b
  | works {outcome : Option Turn} {lines : List String} {b : Running σ} :
      (∀ code, outcome ≠ some (.exited code)) → Works h a lines b → Turns h a outcome b

theorem turns_turn (h : Host σ) (a : Running σ) :
    Turns h a (some (turn h a).1) (turn h a).2 := by
  unfold turn
  cases h.currentDir a.host with
  | error e => exact .works nofun (.rest a)
  | ok directory =>
      dsimp only
      generalize h.readLine a.shell.mode.promptShown _ a.host = out
      -- Until a line is read only the system has changed.
      obtain ⟨e | _ | typed, host⟩ := out
      · exact .works nofun (.meanwhile host (.rest _))
      · exact .works nofun (.meanwhile host (.rest _))
      dsimp only
      cases Text.typedLine? typed with
      | none => exact .broken _
      | some line =>
          have ran : Stays (execute h line { a with host }).1 → ∀ b,
              Works h (execute h line { a with host }).2 [] b → Works h a [line] b :=
            fun on b rest => .meanwhile host (.runs on rest)
          have last code c (ends : execute h line { a with host } = (.error (.exited code), c)) :
              Session h a ([] ++ [line]) c :=
            .exited (.meanwhile host (.rest _)) ends
          dsimp only
          generalize execute h line { a with host } = out at ran last ⊢
          obtain ⟨(e | code | _) | _, next⟩ := out
          · obtain ⟨host, told | broken⟩ := report_cases h e next
            · simp only [told]
              exact .works nofun (ran (.failed e) _ (.meanwhile host (.rest _)))
            · simp only [broken]
              exact .broken _
          · exact .exited (last code next rfl)
          · exact .broken _
          · exact .works nofun (ran (.ok ()) _ (.rest _))

theorem turns_interact (h : Host σ) (turns : Nat) (a : Running σ) :
    Turns h a (interact h turns a).1 (interact h turns a).2 := by
  induction turns generalizing a with
  | zero => exact .works nofun (.rest a)
  | succ turns ih =>
      have first := turns_turn h a
      rw [interact]
      generalize turn h a = out at first ⊢
      obtain ⟨outcome, b⟩ := out
      cases outcome with
      | exited code | broken | inputEnded => exact first
      | again =>
          have later := ih b
          cases first with
          | works _ works =>
              dsimp only
              generalize interact h turns b = out at later ⊢
              obtain ⟨outcome, c⟩ := out
              cases later with
              | exited session => exact .exited (session_append works session)
              | broken => exact .broken c
              | works on more => exact .works on (works_append works more)

/-- An interactive shell that ends with a code has been through a session. -/
theorem converse_session {h : Host σ} {turns : Nat} {a : Running σ} {code : Nat} {s : σ}
    (ends : CommandLine.converse h turns a = (.code code, s)) :
    ∃ lines last, Session h a lines last ∧ last.host = s := by
  have course := turns_interact h turns a
  rw [CommandLine.converse] at ends
  generalize interact h turns a = out at course ends
  obtain ⟨_ | outcome, b⟩ := out
  · cases ends
  cases outcome with
  | again | broken => cases ends
  | exited code' =>
      cases course with
      | exited session =>
          cases ends
          exact ⟨_, b, session, rfl⟩
      | works on _ => exact absurd rfl (on code')
  | inputEnded =>
      cases course with
      | works _ works =>
          dsimp only at ends
          rw [CommandLine.leave] at ends
          generalize quits : (ShellM.quit h none : ShellM σ Unit).run b = out at ends
          obtain ⟨(e | code' | _) | _, c⟩ := out <;> cases ends
          exact ⟨_, c, .left none works quits, rfl⟩

end LineShell
