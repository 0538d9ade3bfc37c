import LineShell.Proofs.Command.Items
import LineShell.Proofs.Words.Reading

/-!
What a command read from a line is like. It has a word for its program, no empty word or file name,
no operator among its words, and is to append only to a file it names: each item keeps this of a
command under construction, since no token of a line is empty.
-/
namespace LineShell

structure Command.Sound (command : Command) : Prop where
  args : ∀ arg ∈ command.args, arg ≠ "" ∧ arg ∉ operators
  inputFile : command.inputFile ≠ some ""
  outputFile : command.outputFile ≠ some ""
  errorFile : command.errorFile ≠ some ""
  append : command.append = true → command.outputFile ≠ none

structure Command.WellFormed (command : Command) : Prop extends command.Sound where
  program : command.args ≠ []

namespace Command

theorem Sound.take {command : Command} (h : command.Sound) {item : Item} (proper : item.Proper)
    (solid : "" ∉ item.tokens) : (command.take item).Sound := by
  cases item with
  | word text =>
      have here : text ≠ "" := fun empty => solid (by simp [Item.tokens, empty])
      exact ⟨List.forall_mem_cons.mpr ⟨⟨here, proper⟩, h.args⟩, h.inputFile, h.outputFile,
        h.errorFile, h.append⟩
  | redirect redirection target =>
      have here : some target ≠ some "" := fun empty =>
        solid (by simp [Item.tokens, Option.some.inj empty])
      cases redirection with
      | input => exact ⟨h.args, here, h.outputFile, h.errorFile, h.append⟩
      | output =>
          have kept : (false = true) → some target ≠ none := fun _ => Option.some_ne_none target
          exact ⟨h.args, h.inputFile, here, h.errorFile, kept⟩
      | appendOutput =>
          exact ⟨h.args, h.inputFile, here, h.errorFile, fun _ => Option.some_ne_none target⟩
      | error => exact ⟨h.args, h.inputFile, h.outputFile, here, h.append⟩
  | background => exact ⟨h.args, h.inputFile, h.outputFile, h.errorFile, h.append⟩

theorem Sound.takes {command : Command} (h : command.Sound) {items : List Item}
    (proper : ∀ item ∈ items, item.Proper) (solid : "" ∉ items.flatMap Item.tokens) :
    (items.foldl Command.take command).Sound := by
  induction items generalizing command with
  | nil => exact h
  | cons item rest ih =>
      rw [List.flatMap_cons, List.mem_append, not_or] at solid
      rw [List.forall_mem_cons] at proper
      exact ih (h.take proper.1 solid.1) proper.2 solid.2

theorem solid_of_tokenize {line : String} {tokens : List String}
    (h : tokenize line = .ok tokens) : "" ∉ tokens := by
  obtain ⟨values, -, rfl⟩ := (Grammar.finish_eq_ok_iff _ _).mp h
  simp [Grammar.shown]

theorem parse_eq_ok {line : String} {command : Command} (h : parse line = .ok command) :
    ∃ tokens built, tokenize line = .ok tokens ∧ ({} : Command).absorb tokens = .ok built ∧
      built.args ≠ [] ∧ command = { built with args := built.args.reverse } := by
  unfold parse ofTokens at h
  split at h
  · contradiction
  · next tokens read =>
      split at h
      · contradiction
      · next built taken =>
          split at h
          · contradiction
          · next some =>
              cases h
              exact ⟨tokens, built, read, taken, by simpa using some, rfl⟩

theorem wellFormed_of_parse {line : String} {command : Command}
    (h : parse line = .ok command) : command.WellFormed := by
  obtain ⟨tokens, built, read, taken, some, rfl⟩ := parse_eq_ok h
  obtain ⟨items, proper, rfl, rfl⟩ := exists_items_of_absorb taken
  have start : ({} : Command).Sound := ⟨nofun, nofun, nofun, nofun, nofun⟩
  have sound := start.takes proper (solid_of_tokenize read)
  refine ⟨⟨fun arg mem => sound.args arg (List.mem_reverse.mp mem), sound.inputFile,
    sound.outputFile, sound.errorFile, sound.append⟩, ?_⟩
  simpa using some

end Command
end LineShell
