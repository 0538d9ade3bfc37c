import LineShell.Expansion.Tilde
import LineShell.Proofs.Path.Components
import Mathlib.Data.List.Forall2

/-!
Where words with a tilde lead. What stands after the tilde is looked for below the home directory,
unless it begins with a second slash: then it is an absolute path, which takes the place of the home
directory, and the word leads out of it.
-/
namespace LineShell

/-- What a word ought to become: a tilde by itself the home directory, what stands after a tilde and
a slash the same below it, and any other word stays. -/
inductive AtHome (home : String) : String → String → Prop
  | alone {result : String} : Path.components result = Path.components home →
      AtHome home "~" result
  | below {rest result : String} {later : List Path.Component} :
      Path.components result = Path.components home ++ later →
      later.map Path.Component.text = (Path.parts rest).filter (· ≠ ".") →
      AtHome home ("~/" ++ rest) result
  | other {word : String} : word ≠ "~" → (∀ rest, word ≠ "~/" ++ rest) → AtHome home word word

/-- What becomes of a word: one with a second slash leads to what stands after its first. -/
inductive Leads (home : String) : String → String → Prop
  | home {word result : String} : (∀ rest, word ≠ "~//" ++ rest) → AtHome home word result →
      Leads home word result
  | out (rest : String) : Leads home ("~//" ++ rest) ("/" ++ rest)

structure Command.Replaces (R : String → String → Prop) (command result : Command) : Prop where
  args : List.Forall₂ R command.args result.args
  inputFile : Option.Rel R command.inputFile result.inputFile
  outputFile : Option.Rel R command.outputFile result.outputFile
  errorFile : Option.Rel R command.errorFile result.errorFile
  append : result.append = command.append
  background : result.background = command.background

def Command.words (command : Command) : List String :=
  command.args ++ (command.inputFile.toList ++ (command.outputFile.toList ++
    command.errorFile.toList))

theorem rel_map_iff {α : Type} {R : α → α → Prop} {f : α → α} {a : Option α} :
    Option.Rel R a (a.map f) ↔ ∀ x ∈ a.toList, R x (f x) := by
  cases a <;> simp

theorem Command.replaces_expandTilde_iff {R : String → String → Prop} (command : Command)
    (home : String) :
    command.Replaces R (command.expandTilde (some home)) ↔
      ∀ word ∈ command.words, R word (expandTildeWord home word) := by
  have args : List.Forall₂ R command.args (command.args.map (expandTildeWord home)) ↔
      ∀ word ∈ command.args, R word (expandTildeWord home word) := by
    rw [List.forall₂_map_right_iff, List.forall₂_same]
  simp only [Command.words, List.forall_mem_append, ← args, ← rel_map_iff]
  constructor
  · rintro ⟨args, input, output, error, -, -⟩
    exact ⟨args, input, output, error⟩
  · rintro ⟨args, input, output, error⟩
    exact ⟨args, input, output, error, rfl, rfl⟩

theorem expandTildeWord_below (home rest : String) :
    expandTildeWord home ("~/" ++ rest) = Path.join home rest := by
  simp [expandTildeWord]

theorem expandTildeWord_other {word : String} (home : String) (long : word ≠ "~")
    (plain : ∀ rest, word ≠ "~/" ++ rest) : expandTildeWord home word = word := by
  unfold expandTildeWord
  split
  · next chars => exact absurd (String.toList_inj.mp chars) long
  · next rest chars =>
      refine absurd ?_ (plain (String.ofList rest))
      rw [← String.toList_inj, chars]
      simp
  · rfl

/-- An absolute path has no tilde to expand. -/
theorem expandTildeWord_of_isAbsolute {word : String} (home : String)
    (h : Path.isAbsolute word = true) : expandTildeWord home word = word := by
  refine expandTildeWord_other home (fun same => ?_) fun rest same => ?_
  · rw [same] at h
    contradiction
  · rw [same, Path.isAbsolute_append (by decide)] at h
    contradiction

theorem two_slashes (rest : String) : "~//" ++ rest = "~/" ++ ("/" ++ rest) := by
  rw [← String.toList_inj]
  simp

theorem tilde_inj {rest other : String} (h : "~/" ++ rest = "~/" ++ other) : rest = other := by
  simpa [← String.toList_inj] using h

/-- A word with a second slash is read as the absolute path after its first. -/
theorem expandTildeWord_out (home rest : String) :
    expandTildeWord home ("~//" ++ rest) = "/" ++ rest := by
  rw [two_slashes, expandTildeWord_below]
  exact Path.join_of_absolute (Path.isAbsolute_iff.mpr ⟨rest, rfl⟩) home

theorem AtHome.join {home rest : String} (absolute : Path.isAbsolute home = true)
    (relative : Path.isAbsolute rest = false) :
    AtHome home ("~/" ++ rest) (Path.join home rest) :=
  .below (Path.components_join absolute relative) (Path.text_ofParts _)

theorem AtHome.components {home rest result : String} (h : AtHome home ("~/" ++ rest) result) :
    ∃ later, Path.components result = Path.components home ++ later ∧
      later.map Path.Component.text = (Path.parts rest).filter (· ≠ ".") := by
  generalize word : "~/" ++ rest = whole at h
  cases h with
  | alone => simp [← String.toList_inj] at word
  | below components texts =>
      cases tilde_inj word
      exact ⟨_, components, texts⟩
  | other _ plain => exact absurd word.symm (plain rest)

/-- A word leads where it ought to, unless a second slash takes it out of a home directory that is
not the root. -/
theorem atHome_iff {home : String} (absolute : Path.isAbsolute home = true) (word : String) :
    AtHome home word (expandTildeWord home word) ↔
      ∀ rest, word = "~//" ++ rest → Path.components home = [.root] := by
  by_cases alone : word = "~"
  · subst alone
    refine ⟨fun _ rest long => ?_, fun _ => .alone rfl⟩
    simp [← String.toList_inj] at long
  by_cases below : ∃ rest, word = "~/" ++ rest
  · obtain ⟨rest, rfl⟩ := below
    rw [expandTildeWord_below]
    cases relative : Path.isAbsolute rest with
    | false =>
        refine ⟨fun _ more long => ?_, fun _ => .join absolute relative⟩
        rw [Path.isAbsolute_iff.mpr ⟨more, tilde_inj (long.trans (two_slashes more))⟩] at relative
        contradiction
    | true =>
        obtain ⟨more, rfl⟩ := Path.isAbsolute_iff.mp relative
        rw [Path.join_of_absolute relative]
        have whole := Path.components_of_absolute relative
        constructor
        -- As many components follow those of home as the word has parts, so home adds none.
        · intro stays _ _
          obtain ⟨later, components, texts⟩ := stays.components
          rw [Path.components_of_absolute absolute] at components ⊢
          have lengths := congrArg List.length components
          have parts := congrArg List.length (texts.trans (Path.text_ofParts _).symm)
          rw [whole] at lengths
          simp only [List.length_append, List.length_cons, List.length_map] at lengths parts
          have none : (Path.ofParts (Path.parts home)).length = 0 := by omega
          rw [List.eq_nil_of_length_eq_zero none]
        · intro root
          refine .below ?_ (Path.text_ofParts _)
          rw [whole, root more (two_slashes more).symm]
          rfl
  · have plain rest : word ≠ "~/" ++ rest := fun same => below ⟨rest, same⟩
    rw [expandTildeWord_other home alone plain]
    refine ⟨fun _ rest long => ?_, fun _ => .other alone plain⟩
    exact absurd (long.trans (two_slashes rest)) (plain _)

theorem leads {home : String} (absolute : Path.isAbsolute home = true) (word : String) :
    Leads home word (expandTildeWord home word) := by
  by_cases long : ∃ rest, word = "~//" ++ rest
  · obtain ⟨rest, rfl⟩ := long
    rw [expandTildeWord_out]
    exact .out rest
  · refine .home (fun rest same => long ⟨rest, same⟩) ?_
    exact (atHome_iff absolute word).mpr fun rest same => absurd ⟨rest, same⟩ long

/-- Where the words of a command lead, with an absolute home directory. The command stays the same
otherwise, and each word leads where it ought to unless it has a second slash after its tilde, which
takes it to the absolute path after the first. So all lead where they ought to just if there is no
such word, or the home directory is the root. -/
theorem expandTilde_at_home_iff (command : Command) (home : String)
    (absolute : Path.isAbsolute home = true) :
    let expanded := command.expandTilde (some home)
    command.Replaces (Leads home) expanded ∧
    (command.Replaces (AtHome home) expanded ↔
      ∀ word ∈ command.words, ∀ rest, word = "~//" ++ rest → Path.components home = [.root]) := by
  refine ⟨(command.replaces_expandTilde_iff home).mpr fun word _ => leads absolute word, ?_⟩
  rw [Command.replaces_expandTilde_iff]
  exact forall₂_congr fun word _ => atHome_iff absolute word

/-- A command with a word that is meant below the home directory, and one that leads out of it. -/
def strayingCommand : Command :=
  { args := ["cat", "~/.//notes/../a"], inputFile := some "~//etc/passwd" }

theorem expandTilde_at_home_iff_straying :
    Path.isAbsolute "/home/robert/" = true ∧
    strayingCommand.Replaces (Leads "/home/robert/")
      { args := ["cat", "/home/robert/.//notes/../a"], inputFile := some "/etc/passwd" } ∧
    ¬strayingCommand.Replaces (AtHome "/home/robert/")
      { args := ["cat", "/home/robert/.//notes/../a"], inputFile := some "/etc/passwd" } := by
  have absolute : Path.isAbsolute "/home/robert/" = true := by decide
  have expanded : strayingCommand.expandTilde (some "/home/robert/") =
      { args := ["cat", "/home/robert/.//notes/../a"], inputFile := some "/etc/passwd" } := by
    decide +kernel
  obtain ⟨led, stays⟩ := expandTilde_at_home_iff strayingCommand "/home/robert/" absolute
  rw [expanded] at led stays
  refine ⟨absolute, led, fun home => ?_⟩
  have root := stays.mp home "~//etc/passwd" (by decide) "etc/passwd" rfl
  exact absurd root (by decide +kernel)

end LineShell
