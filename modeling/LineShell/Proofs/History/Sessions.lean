import LineShell.Proofs.History.File
import LineShell.Proofs.Shell.Session

/-!
Sessions one after another, with one file for the history of all of them. Whatever a session runs,
the next one begins with the entries that it ended with. A session that brought nothing new leaves
the file as it was, which then holds the same entries.
-/
namespace LineShell
variable {σ : Type}

def entered (lines : List String) : List String :=
  (lines.map effective).filter (· ≠ "")

theorem entered_append (a b : List String) : entered (a ++ b) = entered a ++ entered b := by
  simp [entered]

theorem trimmed_of_mem_entered {lines : List String} {text : String} (h : text ∈ entered lines) :
    Trimmed text := by
  obtain ⟨mem, nonblank⟩ := List.mem_filter.mp h
  obtain ⟨line, -, rfl⟩ := List.mem_map.mp mem
  exact trimmed_effective (by simpa using nonblank)

/-- A system on which a path names one file, which is missing or read as it was last written. -/
structure Host.Keeps (h : Host σ) (path : String) (file : σ → Option Bytes) : Prop where
  missing : ∀ s, file s = none → (h.readFile path s).1 = .error (.os .noEntry)
  present : ∀ s bytes, file s = some bytes → (h.readFile path s).1 = .ok bytes
  replaced : ∀ bytes s, file (h.replaceFile path bytes s).2 = some bytes

/-- Any number of interactive sessions with histories of one capacity, beginning without a file:
what the file then holds, and the entries at the end of the last session. Between sessions, and in
one that saves nothing, the file is left alone. -/
inductive Sessions (h : Host σ) (path : String) (file : σ → Option Bytes) (capacity : Nat) :
    Option Bytes → List String → Prop where
  | none : Sessions h path file capacity none []
  | next {content : Option Bytes} {held : List String} {shown : Bool} {env : Environment}
      {s s' : σ} {shell : Shell} {lines : List String} {last : Running σ} :
      Sessions h path file capacity content held →
      (h.homeDir env s).map (Path.join · historyFileName) = some path → file s = content →
      Shell.start h (.interactive capacity shown) env s = (.ok shell, s') →
      Session h { shell, host := s' } lines last →
      (last.shell.history.saved? = .none → file last.host = content) →
      Sessions h path file capacity (file last.host) last.shell.history.entries

def Saved (file : σ → Option Bytes) (a : Running σ) : Prop :=
  ∀ text, a.shell.history.saved? = some text → file a.host = some (Bytes.ofString text)

def SameHistory (a b : Running σ) : Prop :=
  b.shell.history = a.shell.history ∧ b.shell.historyPath = a.shell.historyPath

/-- How the end of a shell leaves a history: saved, unless the shell breaks off. -/
def Closes (path : String) (file : σ → Option Bytes) (halt : Halt) (a b : Running σ) : Prop :=
  b.shell.history = a.shell.history ∧
    ∀ code, halt = .exited code → a.shell.historyPath = some path → Saved file b

theorem frame_history (h : Host σ) (path : String) (file : σ → Option Bytes) :
    Frame h SameHistory (Closes path file) where
  trans first second := ⟨second.1.trans first.1, second.2.trans first.2⟩
  stop first second :=
    ⟨second.1.trans first.1, fun code ends place => second.2 code ends (first.2.trans place)⟩
  shell _ _ history place := ⟨history, place⟩
  enterDir _ _ _ _ := ⟨rfl, rfl⟩
  openInput _ _ := ⟨rfl, rfl⟩
  openOutput _ _ _ := ⟨rfl, rfl⟩
  write _ _ _ := ⟨rfl, rfl⟩
  flush _ := ⟨rfl, rfl⟩
  start _ _ := ⟨rfl, rfl⟩
  run _ _ := ⟨rfl, rfl⟩
  probe _ _ := ⟨rfl, rfl⟩

section
variable {h : Host σ} {path : String} {file : σ → Option Bytes} (keeps : h.Keeps path file)
include keeps

theorem Host.Keeps.parting : Parting h (Closes path file) where
  exits a code := by
    refine ⟨rfl, fun _ _ place text unsaved => ?_⟩
    change a.shell.history.saved? = some text at unsaved
    simp only [ShellM.save, place, unsaved]
    exact keeps.replaced _ _
  breaks _ _ _ := ⟨rfl, nofun⟩

theorem Host.Keeps.execute (line : String) (a : Running σ) :
    (LineShell.execute h line a).2.shell.history =
        (entered [line]).foldl History.add a.shell.history ∧
      (Stays (LineShell.execute h line a).1 →
        (LineShell.execute h line a).2.shell.historyPath = a.shell.historyPath) ∧
      ∀ code, (LineShell.execute h line a).1 = .error (.exited code) →
        a.shell.historyPath = some path → Saved file (LineShell.execute h line a).2 := by
  by_cases blank : effective line = ""
  · rw [execute_blank h blank, show entered [line] = [] by simp [entered, blank]]
    exact ⟨rfl, fun _ => rfl, nofun⟩
  · have kept := (frame_history h path file).executes blank a fun _ => keeps.parting
    rw [show entered [line] = [effective line] by simp [entered, blank]]
    generalize LineShell.execute h line a = out at kept ⊢
    cases kept with
    | ok kept | failed kept => exact ⟨kept.1, fun _ => kept.2, nofun⟩
    | exited parts => exact ⟨parts.1, nofun, fun code _ => parts.2 _ rfl⟩
    | broken parts => exact ⟨parts.1, nofun, nofun⟩

theorem Works.history {a b : Running σ} {lines : List String} (works : Works h a lines b) :
    b.shell.history = (entered lines).foldl History.add a.shell.history ∧
      b.shell.historyPath = a.shell.historyPath := by
  induction works with
  | rest a => exact ⟨rfl, rfl⟩
  | meanwhile host _ ih => exact ih
  | @runs a b line lines on _ ih =>
      obtain ⟨added, place, -⟩ := keeps.execute line a
      rw [← List.singleton_append, entered_append, List.foldl_append, ← added]
      exact ⟨ih.1, ih.2.trans (place on)⟩

theorem Session.history {a b : Running σ} {lines : List String} (session : Session h a lines b) :
    b.shell.history = (entered lines).foldl History.add a.shell.history ∧
      (a.shell.historyPath = some path → Saved file b) := by
  cases session with
  | @left b _ _ code status works quits =>
      obtain ⟨held, place⟩ := works.history keeps
      have parts := (frame_history h path file).quits (α := Unit) keeps.parting status b
      rw [quits] at parts
      cases parts with
      | exited parts => exact ⟨parts.1.trans held, fun named => parts.2 _ rfl (place.trans named)⟩
  | @exited b _ line lines code works ends =>
      obtain ⟨held, place⟩ := works.history keeps
      obtain ⟨added, -, saved⟩ := keeps.execute line b
      rw [ends] at added saved
      rw [entered_append, List.foldl_append, ← held]
      exact ⟨added, fun named => saved code rfl (place.trans named)⟩

end

inductive Kept (capacity : Nat) : Option Bytes → History → Prop where
  | missing : Kept capacity none { capacity }
  | saved {history : History} : history.Tidy → history.capacity = capacity →
      Kept capacity (some (Bytes.ofString history.fileText)) { history with grown := false }

namespace Kept
variable {capacity : Nat} {content : Option Bytes} {history : History}

theorem facts (kept : Kept capacity content history) :
    history.Tidy ∧ history.capacity = capacity ∧ history.grown = false := by
  cases kept with
  | missing => exact ⟨⟨Nat.zero_le _, .nil, nofun⟩, rfl, rfl⟩
  | saved tidy size => exact ⟨⟨tidy.few, tidy.apart, tidy.trimmed⟩, size, rfl⟩

/-- Within a session, the history is what was loaded and then entered. -/
theorem entries_add (kept : Kept capacity content history) (lines : List String) :
    ((entered lines).foldl History.add history).entries =
      History.recent capacity (history.entries ++ entered lines) := by
  obtain ⟨tidy, size, -⟩ := kept.facts
  have added := History.entries_foldl_add tidy.recent_eq.symm
    fun text (mem : text ∈ entered lines) => trimmed_of_mem_entered mem
  rwa [size] at added

theorem start (kept : Kept capacity content history) {h : Host σ} {path : String}
    {file : σ → Option Bytes} (keeps : h.Keeps path file) (shown : Bool) {env : Environment} {s : σ}
    (named : (h.homeDir env s).map (Path.join · historyFileName) = some path)
    (stays : file s = content) :
    ∃ shell s', Shell.start h (.interactive capacity shown) env s = (.ok shell, s') ∧
      shell.history = history ∧ shell.historyPath = some path := by
  unfold Shell.start
  dsimp only
  rw [named, Option.map_some]
  cases kept with
  | missing =>
      have answer := keeps.missing s stays
      generalize h.readFile path s = out at answer
      obtain ⟨content, s'⟩ := out
      cases answer
      exact ⟨_, s', rfl, rfl, rfl⟩
  | @saved history tidy size =>
      have answer := keeps.present s _ stays
      generalize h.readFile path s = out at answer
      obtain ⟨content, s'⟩ := out
      cases answer
      simp only [Bytes.text?_ofString, ← size, History.load_fileText tidy]
      exact ⟨_, s', rfl, rfl, rfl⟩

/-- A session that begins with what the file holds leaves the file with what it ends with. -/
theorem session (kept : Kept capacity content history) {h : Host σ} {path : String}
    {file : σ → Option Bytes} (keeps : h.Keeps path file) {a b : Running σ} {lines : List String}
    (loaded : a.shell.history = history) (named : a.shell.historyPath = some path)
    (session : Session h a lines b)
    (spared : b.shell.history.saved? = none → file b.host = content) :
    Kept capacity (file b.host) { b.shell.history with grown := false } := by
  obtain ⟨held, saved⟩ := session.history keeps
  rw [loaded] at held
  obtain ⟨tidy, size, idle⟩ := kept.facts
  -- Either nothing new was entered, and the file is not written, or the whole history is saved.
  rcases History.foldl_add_eq_or_saved (entered lines) history with same | text
  · rw [same] at held
    rw [spared (by rw [held, History.saved?, idle]; rfl), held, ← idle]
    exact kept
  · rw [← held] at text
    rw [saved named _ text]
    have now : b.shell.history.capacity = capacity := by
      rw [held, History.foldl_add_capacity, size]
    have entries := kept.entries_add lines
    rw [← held, ← now] at entries
    refine .saved (History.tidy_recent entries fun text mem => ?_) now
    rcases List.mem_append.mp mem with old | new
    · exact tidy.trimmed text old
    · exact trimmed_of_mem_entered new

end Kept

/-- Whatever sessions there were, the file holds what the last of them ended with. -/
theorem Sessions.kept {h : Host σ} {path : String} {file : σ → Option Bytes} {capacity : Nat}
    {content : Option Bytes} {held : List String} (keeps : h.Keeps path file)
    (sessions : Sessions h path file capacity content held) :
    ∃ history, Kept capacity content history ∧ history.entries = held := by
  induction sessions with
  | none => exact ⟨_, .missing, rfl⟩
  | @next content held shown env s s' shell lines last _ named stays started session spared ih =>
      obtain ⟨history, kept, -⟩ := ih
      obtain ⟨other, next, same, loaded, place⟩ := kept.start keeps shown named stays
      cases started.symm.trans same
      exact ⟨_, kept.session keeps loaded place session spared, rfl⟩

/-- After any number of sessions the next one begins, and it begins with the entries that the last
one ended with. While it goes on, and at its end, its history is the last of these and of what its
lines leave, without repetitions. An interactive shell that ends with a code, however many turns it
took, has been through such a session. -/
theorem history_survives {h : Host σ} {path : String} {file : σ → Option Bytes}
    (keeps : h.Keeps path file) {capacity : Nat} {content : Option Bytes} {held : List String}
    (sessions : Sessions h path file capacity content held) (shown : Bool) {env : Environment}
    {s : σ} (named : (h.homeDir env s).map (Path.join · historyFileName) = some path)
    (stays : file s = content) :
    ∃ shell s', Shell.start h (.interactive capacity shown) env s = (.ok shell, s') ∧
      shell.history.entries = held ∧
      (∀ lines now, Works h { shell, host := s' } lines now →
        now.shell.history.entries = History.recent capacity (held ++ entered lines)) ∧
      (∀ lines last, Session h { shell, host := s' } lines last →
        last.shell.history.entries = History.recent capacity (held ++ entered lines)) ∧
      ∀ turns code after,
        CommandLine.converse h turns { shell, host := s' } = (.code code, after) →
        ∃ lines last, Session h { shell, host := s' } lines last ∧ last.host = after ∧
          last.shell.history.entries = History.recent capacity (held ++ entered lines) := by
  obtain ⟨history, kept, rfl⟩ := sessions.kept keeps
  obtain ⟨shell, s', started, loaded, place⟩ := kept.start keeps shown named stays
  have ended lines last (session : Session h { shell, host := s' } lines last) :
      last.shell.history.entries =
        History.recent capacity (history.entries ++ entered lines) := by
    rw [(session.history keeps).1, loaded, kept.entries_add]
  refine ⟨shell, s', started, by rw [loaded], fun lines now works => ?_, ended,
    fun turns code after ends => ?_⟩
  · rw [(works.history keeps).1, loaded, kept.entries_add]
  · obtain ⟨lines, last, session, there⟩ := converse_session ends
    exact ⟨lines, last, session, there, ended lines last session⟩

/-- A system that is a file, and on which no program can be run. -/
def notebook : Host (Option Bytes) where
  homeDir env _ := env.get? "HOME"
  currentDir _ := .ok "/"
  enterDir _ s := .ok s
  readFile _ s :=
    (match s with
      | some bytes => .ok bytes
      | none => .error (.os .noEntry), s)
  replaceFile _ bytes _ := (.ok (), some bytes)
  isExecutable _ _ := false
  openInput _ s := (.ok 3, s)
  openOutput _ _ s := (.ok 3, s)
  write _ _ s := (.ok (), s)
  flush s := (.ok (), s)
  readLine _ _ s := (.ok none, s)
  start _ s := (.error (.os .noEntry), s)
  run _ s := (.error (.os .noEntry), s)
  probe _ s := (.ok .alive, s)
  shield s := s

def freshShell : Shell where
  mode := .interactive 2 false
  environment := { entries := [("HOME", "/h")] }
  history := { capacity := 2 }
  historyPath := some "/h/.simsh_history"

/-- The second and the third leave the same text, over two lines; the last fails. -/
def fourLines : List String :=
  ["pwd", "echo 'a\n\\\x0db'", "\techo 'a\n\\\x0db' # again", "nowhere"]

/-- The next session begins with the last two entries. -/
theorem history_survives_notebook :
    notebook.Keeps "/h/.simsh_history" id ∧
    (∀ s, (notebook.homeDir freshShell.environment s).map (Path.join · historyFileName) =
      some "/h/.simsh_history") ∧
    ∃ content, Sessions notebook "/h/.simsh_history" id 2 content
        ["echo 'a\n\\\x0db'", "nowhere"] ∧
      ∃ shell s, Shell.start notebook (.interactive 2 false) freshShell.environment content =
          (.ok shell, s) ∧ shell.history.entries = ["echo 'a\n\\\x0db'", "nowhere"] := by
  have keeps : notebook.Keeps "/h/.simsh_history" id := by
    refine ⟨fun s missing => ?_, fun s bytes present => ?_, fun _ _ => rfl⟩
    · cases missing
      rfl
    · cases present
      rfl
  have named s : (notebook.homeDir freshShell.environment s).map (Path.join · historyFileName) =
      some "/h/.simsh_history" := by
    have home : (freshShell.environment.get? "HOME").map (Path.join · historyFileName) =
        some "/h/.simsh_history" := by decide +kernel
    exact home
  have started : Shell.start notebook (.interactive 2 false) freshShell.environment none =
      (.ok freshShell, none) := by decide +kernel
  let start : Running (Option Bytes) := { shell := freshShell, host := none }
  let quits := (ShellM.quit notebook none : ShellM _ Unit).run
    (executeAll notebook fourLines start).2
  let last := quits.2
  have works : Works notebook start fourLines (executeAll notebook fourLines start).2 := by
    have ran : (executeAll notebook fourLines start).1 = .ok () := by decide +kernel
    exact works_executeAll notebook (by rw [ran]; exact .ok ())
  -- The last line fails, for there is no such program.
  have code : quits.1 = .error (.exited 127) := by decide +kernel
  have held : last.shell.history.entries = ["echo 'a\n\\\x0db'", "nowhere"] := by decide +kernel
  have saved : last.shell.history.saved? ≠ none := by decide +kernel
  have sessions : Sessions notebook "/h/.simsh_history" id 2 last.host
      last.shell.history.entries :=
    .next .none (named none) rfl started (.left none works (Prod.ext code rfl))
      fun unsaved => absurd unsaved saved
  rw [held] at sessions
  obtain ⟨shell, s, next, entries, -⟩ := history_survives keeps sessions false (named _) rfl
  exact ⟨keeps, named, _, sessions, shell, s, next, entries⟩

end LineShell
