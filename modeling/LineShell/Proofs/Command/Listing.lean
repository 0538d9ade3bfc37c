import LineShell.Expansion.Tilde
import LineShell.Proofs.Command.WellFormed
import LineShell.Proofs.Words.Writing
import Mathlib.Data.List.Perm.Basic

/-!
Lines written for a command. The items of a command are its words and its settings; a line lists
them in any order that keeps the words in order, operators as they are and all else with
backslashes. Of each kind of setting there is one item, so the order does not matter to what is
read.
-/
namespace LineShell

namespace Item

def word? : Item → Option String
  | word text => some text
  | _ => none

def inputFile? : Item → Option String
  | redirect .input target => some target
  | _ => none

def output? : Item → Option (String × Bool)
  | redirect .output target => some (target, false)
  | redirect .appendOutput target => some (target, true)
  | _ => none

def errorFile? : Item → Option String
  | redirect .error target => some target
  | _ => none

def mark? : Item → Option Unit
  | background => some ()
  | _ => none

def forms : Item → List (List Char)
  | word text => [Grammar.escaped text.toList]
  | redirect redirection target =>
      [redirection.operator.toList, Grammar.escaped target.toList]
  | background => [['&']]

end Item

namespace Command

def output? (command : Command) : Option (String × Bool) :=
  command.outputFile.map (·, command.append)

def mark? (command : Command) : Option Unit :=
  if command.background then some () else none

def settings (command : Command) : List Item :=
  let writing := if command.append then Redirection.appendOutput else .output
  (command.inputFile.map (Item.redirect .input)).toList ++
    (command.outputFile.map (Item.redirect writing)).toList ++
    (command.errorFile.map (Item.redirect .error)).toList ++
    (command.mark?.map fun _ => Item.background).toList

def items (command : Command) : List Item :=
  command.args.map Item.word ++ command.settings

/-- The items of a command in any order that keeps its words in order. -/
def Lists (items : List Item) (command : Command) : Prop :=
  items.Perm command.items ∧ items.filterMap Item.word? = command.args

theorem args_foldl_take (command : Command) (items : List Item) :
    (items.foldl take command).args = (items.filterMap Item.word?).reverse ++ command.args := by
  induction items generalizing command with
  | nil => rfl
  | cons item rest ih =>
      rw [List.foldl_cons, ih]
      cases item with
      | word text => simp [Item.word?, take]
      | redirect redirection target =>
          cases redirection <;> simp [List.filterMap_cons, Item.word?, take, redirect]
      | background => simp [List.filterMap_cons, Item.word?, take]

section
variable {α : Type} {field : Command → Option α} {kind : Item → Option α}

/-- What a kind of item sets is set by the last item of that kind. -/
theorem field_foldl_take
    (step : ∀ command item, field (take command item) = (kind item).or (field command))
    (command : Command) (items : List Item) :
    field (items.foldl take command) = (items.filterMap kind).getLast?.or (field command) := by
  induction items generalizing command with
  | nil => rfl
  | cons item rest ih =>
      rw [List.foldl_cons, ih, step, List.filterMap_cons]
      cases kind item with
      | none => rfl
      | some value => cases h : (rest.filterMap kind).getLast? <;> simp [List.getLast?_cons, h]

/-- What a command lists for a field once, its items in any order set again. -/
theorem field_of_lists {items : List Item} {command : Command}
    (step : ∀ command item, field (take command item) = (kind item).or (field command))
    (start : field {} = none) (own : command.items.filterMap kind = (field command).toList)
    (lists : Lists items command) : field (items.foldl take {}) = field command := by
  have once : (items.filterMap kind).Perm (field command).toList := own ▸ lists.1.filterMap kind
  rw [field_foldl_take step, start]
  cases h : field command with
  | none =>
      rw [h] at once
      rw [List.perm_nil.mp once]
      rfl
  | some value =>
      rw [h] at once
      rw [List.perm_singleton.mp once]
      rfl

end

theorem inputFile_take (command : Command) (item : Item) :
    (command.take item).inputFile = item.inputFile?.or command.inputFile := by
  cases item with
  | redirect redirection target => cases redirection <;> rfl
  | word _ | background => rfl

theorem output?_take (command : Command) (item : Item) :
    (command.take item).output? = item.output?.or command.output? := by
  cases item with
  | redirect redirection target => cases redirection <;> rfl
  | word _ | background => rfl

theorem errorFile_take (command : Command) (item : Item) :
    (command.take item).errorFile = item.errorFile?.or command.errorFile := by
  cases item with
  | redirect redirection target => cases redirection <;> rfl
  | word _ | background => rfl

theorem mark?_take (command : Command) (item : Item) :
    (command.take item).mark? = item.mark?.or command.mark? := by
  cases item with
  | redirect redirection target => cases redirection <;> rfl
  | word _ | background => rfl

theorem filterMap_items {α : Type} {kind : Item → Option α}
    (words : ∀ text, kind (.word text) = none) (command : Command) :
    command.items.filterMap kind = command.settings.filterMap kind := by
  have none : (command.args.map Item.word).filterMap kind = [] := by simp [words]
  rw [items, List.filterMap_append, none, List.nil_append]

/-- Each setting of a command is listed once, under its own kind. -/
theorem filterMap_settings (command : Command) :
    command.settings.filterMap Item.inputFile? = command.inputFile.toList ∧
    command.settings.filterMap Item.output? = command.output?.toList ∧
    command.settings.filterMap Item.errorFile? = command.errorFile.toList ∧
    command.settings.filterMap Item.mark? = command.mark?.toList := by
  obtain ⟨args, input, output, append, error, background⟩ := command
  cases input <;> cases output <;> cases append <;> cases error <;> cases background <;>
    exact ⟨rfl, rfl, rfl, rfl⟩

/-- How output is written matters only where there is a file for it. -/
theorem append_eq {a b : Command} (ha : a.append = true → a.outputFile ≠ none)
    (hb : b.append = true → b.outputFile ≠ none) (h : a.output? = b.output?) :
    a.outputFile = b.outputFile ∧ a.append = b.append := by
  unfold output? at h
  cases hao : a.outputFile with
  | none =>
      cases hbo : b.outputFile with
      | none =>
          have plainA : a.append = false := Bool.eq_false_iff.mpr fun some => ha some hao
          have plainB : b.append = false := Bool.eq_false_iff.mpr fun some => hb some hbo
          exact ⟨rfl, plainA.trans plainB.symm⟩
      | some target =>
          rw [hao, hbo] at h
          contradiction
  | some target =>
      cases hbo : b.outputFile with
      | none =>
          rw [hao, hbo] at h
          contradiction
      | some other =>
          rw [hao, hbo] at h
          simpa using h

theorem mark?_inj {a b : Command} (h : a.mark? = b.mark?) : a.background = b.background := by
  unfold mark? at h
  revert h
  cases a.background <;> cases b.background <;> simp

theorem Sound.item {command : Command} (h : command.Sound) {item : Item}
    (mem : item ∈ command.items) : item.Proper ∧ "" ∉ item.tokens := by
  have target {redirection : Redirection} {file : Option String} (solid : file ≠ some "")
      (named : item ∈ (file.map (Item.redirect redirection)).toList) :
      item.Proper ∧ "" ∉ item.tokens := by
    cases file with
    | none => contradiction
    | some text =>
        rw [List.mem_singleton.mp named]
        refine ⟨trivial, ?_⟩
        have some : "" ≠ text := fun empty => solid (by rw [← empty])
        cases redirection <;> simp [Item.tokens, Redirection.operator, some]
  simp only [items, settings, List.mem_append] at mem
  rcases mem with word | ((input | output) | error) | background
  · obtain ⟨text, inside, rfl⟩ := List.mem_map.mp word
    obtain ⟨some, proper⟩ := h.args text inside
    exact ⟨proper, by simpa [Item.tokens] using some.symm⟩
  · exact target h.inputFile input
  · exact target h.outputFile output
  · exact target h.errorFile error
  · cases marked : command.mark? with
    | none =>
        rw [marked] at background
        contradiction
    | some _ =>
        rw [marked] at background
        rw [List.mem_singleton.mp background]
        exact ⟨trivial, by simp [Item.tokens]⟩

theorem Lists.item {items : List Item} {command : Command} (lists : Lists items command)
    (sound : command.Sound) :
    (∀ item ∈ items, item.Proper) ∧ "" ∉ items.flatMap Item.tokens := by
  refine ⟨fun item mem => (sound.item (lists.1.subset mem)).1, fun mem => ?_⟩
  obtain ⟨item, inside, empty⟩ := List.mem_flatMap.mp mem
  exact (sound.item (lists.1.subset inside)).2 empty

theorem foldl_take_of_lists {items : List Item} {command : Command} (sound : command.Sound)
    (lists : Lists items command) :
    items.foldl take {} = { command with args := command.args.reverse } := by
  obtain ⟨proper, solid⟩ := lists.item sound
  obtain ⟨input, output, error, mark⟩ := filterMap_settings command
  have start : ({} : Command).Sound := ⟨nofun, nofun, nofun, nofun, nofun⟩
  have args : (items.foldl take {}).args = command.args.reverse := by
    rw [args_foldl_take, lists.2]
    exact List.append_nil _
  have inputFile : (items.foldl take {}).inputFile = command.inputFile :=
    field_of_lists inputFile_take rfl ((filterMap_items (fun _ => rfl) _).trans input) lists
  have written : (items.foldl take {}).output? = command.output? :=
    field_of_lists output?_take rfl ((filterMap_items (fun _ => rfl) _).trans output) lists
  have errorFile : (items.foldl take {}).errorFile = command.errorFile :=
    field_of_lists errorFile_take rfl ((filterMap_items (fun _ => rfl) _).trans error) lists
  have marked : (items.foldl take {}).mark? = command.mark? :=
    field_of_lists mark?_take rfl ((filterMap_items (fun _ => rfl) _).trans mark) lists
  obtain ⟨outputFile, append⟩ := append_eq (start.takes proper solid).append sound.append written
  have background := mark?_inj marked
  revert args inputFile outputFile append errorFile background
  cases items.foldl take {}
  simp +contextual

theorem forms_tokens {item : Item} (solid : "" ∉ item.tokens) :
    List.Forall₂ (fun form token => Grammar.Word form token.toList) item.forms item.tokens := by
  have text {word : String} (some : "" ≠ word) :
      Grammar.Word (Grammar.escaped word.toList) word.toList :=
    Grammar.word_escaped fun none => some (String.toList_eq_nil_iff.mp none).symm
  cases item with
  | word word => exact .cons (text (by simpa [Item.tokens] using solid)) .nil
  | redirect redirection target =>
      refine .cons ?_ (.cons (text fun empty => solid ?_) .nil)
      · apply Grammar.word_bare <;> cases redirection <;>
          simp [Redirection.operator, Grammar.Bare]
      · simp [Item.tokens, empty]
  | background => exact .cons (Grammar.word_bare (by simp) (by simp [Grammar.Bare])) .nil

theorem forms_tokens_flatMap {items : List Item} (solid : "" ∉ items.flatMap Item.tokens) :
    List.Forall₂ (fun form token => Grammar.Word form token.toList)
      (items.flatMap Item.forms) (items.flatMap Item.tokens) := by
  induction items with
  | nil => exact .nil
  | cons item rest ih =>
      rw [List.flatMap_cons, List.mem_append, not_or] at solid
      exact List.rel_append (forms_tokens solid.1) (ih solid.2)

theorem parse_of_lists {items : List Item} {command : Command} {text : List Char}
    (h : command.WellFormed) (lists : Lists items command)
    (spaced : Grammar.Spaced (items.flatMap Item.forms) text) :
    parse (String.ofList text) = .ok command := by
  obtain ⟨proper, solid⟩ := lists.item h.toSound
  have read := Grammar.tokenize_spaced spaced (forms_tokens_flatMap solid) solid
  have some : (command.args.reverse).isEmpty = false := by simpa using h.program
  simp only [parse, read, ofTokens, absorb_items {} proper,
    foldl_take_of_lists h.toSound lists, some, List.reverse_reverse, Bool.false_eq_true, if_false]

theorem lists_items (command : Command) : Lists command.items command := by
  refine ⟨List.Perm.refl _, ?_⟩
  have none : command.settings.filterMap Item.word? = [] := by
    obtain ⟨args, input, output, append, error, background⟩ := command
    cases input <;> cases output <;> cases append <;> cases error <;> cases background <;> rfl
  have words : (command.args.map Item.word).filterMap Item.word? = command.args := by
    rw [List.filterMap_map]
    exact List.filterMap_some
  rw [items, List.filterMap_append, none, words, List.append_nil]

theorem exists_lists {command : Command} (h : command.WellFormed) :
    ∃ items text, Lists items command ∧ Grammar.Spaced (items.flatMap Item.forms) text := by
  have some : command.items.flatMap Item.forms ≠ [] := by
    cases args : command.args with
    | nil => exact absurd args h.program
    | cons program operands => simp [items, args, Item.forms]
  obtain ⟨text, spaced⟩ := Grammar.exists_spaced some
  exact ⟨command.items, text, lists_items command, spaced⟩

theorem args_eq_cons {command : Command} (h : command.args ≠ []) :
    command.args = command.program :: command.operands := by
  unfold program operands
  cases args : command.args with
  | nil => contradiction
  | cons first rest => rfl

theorem args_expandTilde_ne_nil {command : Command} (h : command.args ≠ []) (home : Option String) :
    (command.expandTilde home).args ≠ [] := by
  cases home with
  | none => exact h
  | some home => simpa [expandTilde] using h

/-- Lines are read as the commands that are well formed and as no others. What is read has a first
word to run, also once its tildes are expanded; and a well-formed command is read from every line
that lists its items, in any order that keeps its words in order and with any gaps between them. -/
theorem parse_reaches_wellFormed :
    (∀ line command, parse line = .ok command → command.WellFormed ∧
      command.args = command.program :: command.operands ∧
      ∀ home, (command.expandTilde home).args =
        (command.expandTilde home).program :: (command.expandTilde home).operands) ∧
    (∀ command : Command, command.WellFormed →
      (∃ items text, Lists items command ∧ Grammar.Spaced (items.flatMap Item.forms) text) ∧
      ∀ items text, Lists items command → Grammar.Spaced (items.flatMap Item.forms) text →
        parse (String.ofList text) = .ok command) := by
  refine ⟨fun line command read => ?_, fun command h => ⟨exists_lists h, ?_⟩⟩
  · have h := wellFormed_of_parse read
    refine ⟨h, args_eq_cons h.program, fun home => ?_⟩
    exact args_eq_cons (args_expandTilde_ne_nil h.program home)
  · intro items text lists spaced
    exact parse_of_lists h lists spaced

/-- A file may have the name of an operator, and words may stand on both sides of it. -/
example : parse "&\t\\l\\s  >> \\& \\-\\l" = .ok
    { args := ["ls", "-l"], outputFile := some "&", append := true, background := true } := by
  decide +kernel

end Command
end LineShell
