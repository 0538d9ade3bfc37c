import LineShell.Proofs.Command.Listing

/-!
Any list of tokens as a command reads it. It is cut from the left into items, operators that are
refused and, where a redirection stands last, one without its target; there is exactly one such
cut. The command is what the items say, the last of a kind deciding, unless a portion is at fault:
then the leftmost of these is the error.
-/
namespace LineShell

inductive Portion where
  | item (taken : Item)
  | refused (operator : String)
  | dangling (redirection : Redirection)
  deriving DecidableEq, Repr

namespace Portion

def item? : Portion → Option Item
  | .item taken => some taken
  | .refused _ | .dangling _ => none

def fault? : Portion → Option LineError
  | .item _ => none
  | .refused operator => some (.unsupportedOperator operator)
  | .dangling redirection => some (.missingTarget redirection.operator)

end Portion

def forbidden : List String := ["|", "&&", "||"]

theorem mem_forbidden_iff (token : String) : token ∈ forbidden ↔ isForbidden token = true := by
  simp [forbidden, isForbidden, or_assoc]

/-- A list of tokens and its portions. A redirection takes the token after it, whatever it is. -/
inductive Cut : List String → List Portion → Prop
  | nil : Cut [] []
  | item (item : Item) {rest : List String} {portions : List Portion} :
      item.Proper → Cut rest portions → Cut (item.tokens ++ rest) (.item item :: portions)
  | refused {operator : String} {rest : List String} {portions : List Portion} :
      operator ∈ forbidden → Cut rest portions →
        Cut (operator :: rest) (.refused operator :: portions)
  | dangling (redirection : Redirection) :
      Cut [redirection.operator] [.dangling redirection]

def Portion.single (token : String) : Portion :=
  if token = "&" then .item .background
  else if token ∈ forbidden then .refused token
  else .item (.word token)

def portions : List String → List Portion
  | [] => []
  | [token] =>
      match Redirection.ofToken? token with
      | some redirection => [.dangling redirection]
      | none => [.single token]
  | token :: next :: rest =>
      match Redirection.ofToken? token with
      | some redirection => .item (.redirect redirection next) :: portions rest
      | none => .single token :: portions (next :: rest)

theorem not_mem_operators {token : String} (none : Redirection.ofToken? token = none)
    (unmarked : token ≠ "&") (allowed : token ∉ forbidden) : token ∉ operators := by
  intro mem
  have redirects : token = "<" ∨ token = ">" ∨ token = ">>" ∨ token = "2>" := by
    simp only [operators, forbidden, List.mem_cons, List.not_mem_nil, or_false] at mem allowed
    tauto
  rcases redirects with rfl | rfl | rfl | rfl <;> contradiction

theorem Cut.single {token : String} (none : Redirection.ofToken? token = none)
    {rest : List String} {others : List Portion} (cut : Cut rest others) :
    Cut (token :: rest) (.single token :: others) := by
  unfold Portion.single
  split
  · next mark =>
      rw [mark]
      exact .item .background trivial cut
  · next unmarked =>
      split
      · next refused => exact .refused refused cut
      · next allowed =>
          exact .item (.word token) (not_mem_operators none unmarked allowed) cut

theorem cut_portions (tokens : List String) : Cut tokens (portions tokens) := by
  induction tokens using portions.induct with
  | case1 => exact .nil
  | case2 token redirection found =>
      rw [portions, found, Redirection.eq_operator found]
      exact .dangling redirection
  | case3 token none =>
      rw [portions, none]
      exact .single none .nil
  | case4 token next rest redirection found ih =>
      rw [portions, found, Redirection.eq_operator found]
      exact .item (.redirect redirection next) trivial ih
  | case5 token next rest none ih =>
      rw [portions, none]
      exact .single none ih

theorem portions_single {token : String} (none : Redirection.ofToken? token = none)
    (rest : List String) : portions (token :: rest) = .single token :: portions rest := by
  cases rest <;> simp [portions, none]

theorem apart_of_forbidden {operator : String} (h : operator ∈ forbidden) :
    Redirection.ofToken? operator = none ∧ operator ≠ "&" := by
  simp only [forbidden, List.mem_cons, List.not_mem_nil, or_false] at h
  rcases h with rfl | rfl | rfl <;> exact ⟨rfl, by decide⟩

theorem Cut.eq_portions {tokens : List String} {others : List Portion} (cut : Cut tokens others) :
    others = portions tokens := by
  induction cut with
  | nil => rfl
  | @item item rest _ proper _ ih =>
      subst ih
      cases item with
      | word text =>
          obtain ⟨unmarked, -⟩ := apart_of_word proper
          have allowed : text ∉ forbidden := fun mem =>
            proper (by simp only [operators, forbidden, List.mem_cons] at mem ⊢; tauto)
          have one : Portion.single text = .item (.word text) := by
            rw [Portion.single, if_neg unmarked, if_neg allowed]
          exact (one ▸ portions_single (Redirection.ofToken?_eq_none proper) rest).symm
      | redirect redirection target =>
          simp [Item.tokens, portions, redirection.ofToken?_operator]
      | background =>
          have unmarked : Redirection.ofToken? "&" = none := rfl
          exact (portions_single unmarked rest).symm
  | @refused operator rest _ mem _ ih =>
      obtain ⟨none, unmarked⟩ := apart_of_forbidden mem
      have one : Portion.single operator = .refused operator := by
        rw [Portion.single, if_neg unmarked, if_pos mem]
      rw [portions_single none, one, ih]
  | dangling redirection => simp [portions, redirection.ofToken?_operator]

namespace Command

def ofItems (items : List Item) : Command where
  args := items.filterMap Item.word?
  inputFile := (items.filterMap Item.inputFile?).getLast?
  outputFile := (items.filterMap Item.output?).getLast?.map Prod.fst
  append := ((items.filterMap Item.output?).getLast?.map Prod.snd).getD false
  errorFile := (items.filterMap Item.errorFile?).getLast?
  background := decide (Item.background ∈ items)

theorem background_foldl_take (command : Command) (items : List Item) :
    (items.foldl take command).background =
      (command.background || decide (Item.background ∈ items)) := by
  induction items generalizing command with
  | nil => simp
  | cons item rest ih =>
      rw [List.foldl_cons, ih]
      cases item with
      | redirect redirection target => cases redirection <;> simp [take, redirect]
      | word _ | background => simp [take]

theorem outputFile_take (command : Command) (item : Item) :
    (command.take item).outputFile = (item.output?.map Prod.fst).or command.outputFile := by
  cases item with
  | redirect redirection target => cases redirection <;> rfl
  | word _ | background => rfl

theorem append_take (command : Command) (item : Item) :
    some (command.take item).append = (item.output?.map Prod.snd).or (some command.append) := by
  cases item with
  | redirect redirection target => cases redirection <;> rfl
  | word _ | background => rfl

/-- The words of a command under construction come newest first. -/
theorem foldl_take_eq_ofItems (items : List Item) :
    items.foldl take {} = { ofItems items with args := (ofItems items).args.reverse } := by
  have args := args_foldl_take {} items
  have inputFile := field_foldl_take inputFile_take {} items
  have outputFile := field_foldl_take outputFile_take {} items
  have append := @field_foldl_take _ (fun command => some command.append) _ append_take {} items
  have errorFile := field_foldl_take errorFile_take {} items
  have background := background_foldl_take {} items
  rw [← List.map_filterMap, List.getLast?_map] at outputFile append
  rw [Option.or_none] at inputFile outputFile errorFile
  rw [Option.or_some, Option.some_inj] at append
  generalize items.foldl take {} = last at *
  obtain ⟨_, _, _, _, _, _⟩ := last
  simp only [ofItems, Command.mk.injEq]
  exact ⟨args.trans (List.append_nil _), inputFile, outputFile, append, errorFile, background⟩

/-- The leftmost portion at fault ends the reading; without one all items are taken. -/
theorem absorb_cut {tokens : List String} {portions : List Portion} (cut : Cut tokens portions)
    (command : Command) :
    command.absorb tokens =
      match portions.findSome? Portion.fault? with
      | some e => .error e
      | none => .ok ((portions.filterMap Portion.item?).foldl take command) := by
  induction cut generalizing command with
  | nil => rfl
  | @item item _ _ proper _ ih =>
      exact (absorb_item command proper _).trans (ih (command.take item))
  | @refused operator rest _ mem _ _ =>
      obtain ⟨none, unmarked⟩ := apart_of_forbidden mem
      have refused : command.plain operator = .error (.unsupportedOperator operator) := by
        rw [plain, if_neg unmarked, if_pos ((mem_forbidden_iff operator).mp mem)]
      cases rest <;> simp only [absorb, none, refused] <;> rfl
  | dangling redirection =>
      simp only [absorb, redirection.ofToken?_operator]
      rfl

theorem ofTokens_cut {tokens : List String} {portions : List Portion} (cut : Cut tokens portions) :
    ofTokens tokens =
      let command := ofItems (portions.filterMap Portion.item?)
      match portions.findSome? Portion.fault? with
      | some e => .error e
      | none => if command.args = [] then .error .emptyCommand else .ok command := by
  rw [ofTokens, absorb_cut cut]
  cases portions.findSome? Portion.fault? with
  | some e => rfl
  | none =>
      simp only [foldl_take_eq_ofItems, List.isEmpty_reverse, List.isEmpty_iff,
        List.reverse_reverse]

/-- Every list of tokens is cut in exactly one way. It makes a command just when no portion is
at fault and there is a word, and the command is then the one that its items make; the error is that
of the leftmost portion at fault or, where there is none, that there is no word. -/
theorem ofTokens_reads_cut (tokens : List String) :
    ∃ portions, (∀ others, Cut tokens others ↔ others = portions) ∧
      (∀ command, ofTokens tokens = .ok command ↔
        (∀ portion ∈ portions, portion.fault? = none) ∧ command.args ≠ [] ∧
        command = ofItems (portions.filterMap Portion.item?)) ∧
      (∀ e, ofTokens tokens = .error e ↔
        (∃ front portion back, portions = front ++ portion :: back ∧ portion.fault? = some e ∧
          ∀ earlier ∈ front, earlier.fault? = none) ∨
        (∀ portion ∈ portions, portion.fault? = none) ∧
          (ofItems (portions.filterMap Portion.item?)).args = [] ∧ e = .emptyCommand) := by
  have cut := cut_portions tokens
  refine ⟨portions tokens, fun others => ⟨Cut.eq_portions, fun same => same ▸ cut⟩, ?_⟩
  rw [ofTokens_cut cut]
  generalize portions tokens = portions
  have faultless : (∀ portion ∈ portions, portion.fault? = none) ↔
      portions.findSome? Portion.fault? = none := List.findSome?_eq_none_iff.symm
  have leftmost e := List.findSome?_eq_some_iff (f := Portion.fault?) (l := portions) (b := e)
  simp only [faultless, ← leftmost]
  cases portions.findSome? Portion.fault? with
  | some first => simp
  | none =>
      by_cases wordless : (ofItems (portions.filterMap Portion.item?)).args = []
      · simp only [if_pos wordless]
        refine ⟨fun command => ⟨nofun, ?_⟩, fun e => by simp [wordless, eq_comm]⟩
        rintro ⟨-, worded, rfl⟩
        exact absurd wordless worded
      · simp only [if_neg wordless]
        refine ⟨fun command => ⟨?_, ?_⟩, fun e => by simp [wordless]⟩
        · rintro ⟨⟩
          exact ⟨trivial, wordless, rfl⟩
        · rintro ⟨-, -, rfl⟩
          rfl

/-- A target may look like an operator, and the operators after it count anew. -/
example : ofTokens [">>", ">", "a", ">", "2>", "&", "b"] = .ok
    { args := ["a", "b"], outputFile := some "2>", background := true } := by decide

end Command
end LineShell
