import LineShell.Command
import Mathlib.Data.List.Basic

/-!
What a command takes from its tokens at a time: a word, a redirection with its target, or the mark
of the background. A list of tokens is taken without an error just when it is cut into such items,
and the command is then what the items make of it one after another.
-/
namespace LineShell

def Redirection.operator : Redirection → String
  | .input => "<"
  | .output => ">"
  | .appendOutput => ">>"
  | .error => "2>"

theorem Redirection.ofToken?_operator (redirection : Redirection) :
    ofToken? redirection.operator = some redirection := by
  cases redirection <;> rfl

theorem Redirection.eq_operator {token : String} {redirection : Redirection}
    (h : ofToken? token = some redirection) : token = redirection.operator := by
  unfold ofToken? at h
  split at h <;> cases h <;> rfl

def operators : List String := ["<", ">", ">>", "2>", "&", "|", "&&", "||"]

theorem Redirection.ofToken?_eq_none {token : String} (h : token ∉ operators) :
    ofToken? token = none := by
  cases found : ofToken? token with
  | none => rfl
  | some redirection =>
      refine absurd ?_ h
      rw [eq_operator found]
      cases redirection <;> decide

theorem apart_of_word {token : String} (h : token ∉ operators) :
    token ≠ "&" ∧ isForbidden token = false := by
  simp only [operators, List.mem_cons, not_or] at h
  obtain ⟨-, -, -, -, mark, pipe, both, either, -⟩ := h
  simp [isForbidden, mark, pipe, both, either]

inductive Item where
  | word (text : String)
  | redirect (redirection : Redirection) (target : String)
  | background
  deriving DecidableEq, Repr

namespace Item

def tokens : Item → List String
  | word text => [text]
  | redirect redirection target => [redirection.operator, target]
  | background => ["&"]

/-- No operator stands for a word; a target may be anything. -/
def Proper : Item → Prop
  | word text => text ∉ operators
  | redirect .. | background => True

end Item

namespace Command

def take (command : Command) : Item → Command
  | .word text => { command with args := text :: command.args }
  | .redirect redirection target => command.redirect target redirection
  | .background => { command with background := true }

theorem plain_word (command : Command) {text : String} (h : text ∉ operators) :
    command.plain text = .ok { command with args := text :: command.args } := by
  simp [plain, apart_of_word h]

/-- A token that is no redirection is a word, the mark of the background, or refused. -/
theorem plain_ok {command next : Command} {token : String}
    (h : command.plain token = .ok next) (none : Redirection.ofToken? token = none) :
    ∃ item : Item, item.Proper ∧ item.tokens = [token] ∧ next = command.take item := by
  unfold plain at h
  split at h
  · next mark =>
      cases h
      exact ⟨.background, trivial, by rw [mark]; rfl, rfl⟩
  · next unmarked =>
      split at h
      · contradiction
      · next allowed =>
          cases h
          refine ⟨.word token, ?_, rfl, rfl⟩
          intro mem
          have redirects : token = "<" ∨ token = ">" ∨ token = ">>" ∨ token = "2>" := by
            simp only [isForbidden, Bool.or_eq_true, decide_eq_true_eq, not_or] at allowed
            simp only [operators, List.mem_cons, List.not_mem_nil, or_false] at mem
            tauto
          rcases redirects with rfl | rfl | rfl | rfl <;> contradiction

theorem absorb_item (command : Command) {item : Item} (proper : item.Proper)
    (rest : List String) :
    command.absorb (item.tokens ++ rest) = (command.take item).absorb rest := by
  cases item with
  | word text =>
      have none := Redirection.ofToken?_eq_none proper
      have taken := command.plain_word proper
      cases rest <;> simp [Item.tokens, absorb, none, taken, take]
  | redirect redirection target =>
      simp [Item.tokens, absorb, redirection.ofToken?_operator, take]
  | background =>
      have none : Redirection.ofToken? "&" = none := rfl
      have taken : command.plain "&" = .ok { command with background := true } := rfl
      cases rest <;> simp [Item.tokens, absorb, none, taken, take]

theorem absorb_items (command : Command) {items : List Item}
    (proper : ∀ item ∈ items, item.Proper) :
    command.absorb (items.flatMap Item.tokens) = .ok (items.foldl take command) := by
  induction items generalizing command with
  | nil => simp [absorb]
  | cons item rest ih =>
      rw [List.flatMap_cons, absorb_item command (proper item List.mem_cons_self),
        ih _ fun other mem => proper other (List.mem_cons_of_mem _ mem), List.foldl_cons]

theorem exists_items_of_absorb {command last : Command} {tokens : List String}
    (h : command.absorb tokens = .ok last) :
    ∃ items : List Item, (∀ item ∈ items, item.Proper) ∧ tokens = items.flatMap Item.tokens ∧
      last = items.foldl take command := by
  induction command, tokens using absorb.induct with
  | case1 command =>
      cases h
      exact ⟨[], nofun, rfl, rfl⟩
  | case2 command token redirection found => simp [absorb, found] at h
  | case3 command token none =>
      simp only [absorb, none] at h
      obtain ⟨item, proper, same, rfl⟩ := plain_ok h none
      exact ⟨[item], by simpa using proper, by simp [same], rfl⟩
  | case4 command token target rest redirection found ih =>
      simp only [absorb, found] at h
      obtain ⟨items, proper, rfl, rfl⟩ := ih h
      refine ⟨.redirect redirection target :: items, ?_, ?_, rfl⟩
      · exact List.forall_mem_cons.mpr ⟨trivial, proper⟩
      · simp [Item.tokens, Redirection.eq_operator found]
  | case5 command token other rest none next taken ih =>
      simp only [absorb, none, taken] at h
      obtain ⟨item, fits, same, rfl⟩ := plain_ok taken none
      obtain ⟨items, proper, eq, rfl⟩ := ih h
      refine ⟨item :: items, List.forall_mem_cons.mpr ⟨fits, proper⟩, ?_, rfl⟩
      rw [List.flatMap_cons, same, ← eq]
      rfl
  | case6 command token other rest none e taken => simp [absorb, none, taken] at h

end Command
end LineShell
