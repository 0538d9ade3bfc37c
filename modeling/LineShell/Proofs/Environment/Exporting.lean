import LineShell.Builtin.Run
import LineShell.Proofs.Environment.Values
import LineShell.Proofs.Expansion.Live
import LineShell.Proofs.Expansion.Pass
import LineShell.Proofs.Shell.Action

/-!
Variables that are exported and read back. What an argument means is said without regard to how it
is cut. A call does what its valid arguments mean, in order, and complains about the others; after
any number of calls, each name that can be exported is read by a reference as it was last changed.
-/
namespace LineShell
variable {σ : Type}

/-- What a valid argument does to a variable, in a call that sets variables or one that removes
them. -/
inductive Means : (removes : Bool) → String → Change → Prop
  | bare {name : String} : isIdentifier name = true → Means false name ⟨name, some ""⟩
  | valued {name value : String} : isIdentifier name = true → '\x00' ∉ value.toList →
      Means false (name ++ "=" ++ value) ⟨name, some value⟩
  | removed {name : String} : isIdentifier name = true → Means true name ⟨name, none⟩

inductive Sorts (removes : Bool) : List String → List Change → List String → Prop
  | nil : Sorts removes [] [] []
  | valid {arg : String} {change : Change} {rest : List String} {changes : List Change}
      {refused : List String} : Means removes arg change → Sorts removes rest changes refused →
      Sorts removes (arg :: rest) (change :: changes) refused
  | invalid {arg : String} {rest : List String} {changes : List Change} {refused : List String} :
      (∀ change, ¬Means removes arg change) → Sorts removes rest changes refused →
      Sorts removes (arg :: rest) changes (arg :: refused)

theorem Means.identifier {removes : Bool} {arg : String} {change : Change}
    (h : Means removes arg change) : isIdentifier change.name = true := by
  cases h <;> assumption

def change? (removes : Bool) (arg : String) : Option Change :=
  if removes then if isIdentifier arg then some ⟨arg, none⟩ else none
  else (Builtin.assignment? arg).map fun (name, value) => ⟨name, some value⟩

theorem assignment?_of_cut {arg : String} {name value : List Char}
    (cut : Text.cut? '=' arg.toList = some (name, value)) :
    Builtin.assignment? arg =
      if isIdentifier (String.ofList name) ∧ ¬value.contains '\x00' then
        some (String.ofList name, String.ofList value)
      else none := by
  simp [Builtin.assignment?, cut]

theorem assignment?_of_uncut {arg : String} (uncut : Text.cut? '=' arg.toList = none) :
    Builtin.assignment? arg = if isIdentifier arg then some (arg, "") else none := by
  simp [Builtin.assignment?, uncut]

theorem means_of_change? {removes : Bool} {arg : String} {change : Change}
    (h : change? removes arg = some change) : Means removes arg change := by
  cases removes with
  | true =>
      simp only [change?, if_true, Option.ite_none_right_eq_some, Option.some.injEq] at h
      obtain ⟨identifier, rfl⟩ := h
      exact .removed identifier
  | false =>
      simp only [change?, Bool.false_eq_true, if_false, Option.map_eq_some_iff] at h
      obtain ⟨⟨name, value⟩, assigned, rfl⟩ := h
      cases cut : Text.cut? '=' arg.toList with
      | none =>
          rw [assignment?_of_uncut cut, Option.ite_none_right_eq_some] at assigned
          obtain ⟨identifier, same⟩ := assigned
          cases same
          exact .bare identifier
      | some parts =>
          rw [assignment?_of_cut cut, Option.ite_none_right_eq_some] at assigned
          obtain ⟨⟨identifier, clean⟩, same⟩ := assigned
          cases same
          have whole : arg = String.ofList parts.1 ++ "=" ++ String.ofList parts.2 := by
            rw [← String.toList_inj, (Text.cut?_eq_some cut).1]
            simp
          rw [whole]
          exact .valued identifier (by simpa using clean)

theorem change?_of_means {removes : Bool} {arg : String} {change : Change}
    (h : Means removes arg change) : change? removes arg = some change := by
  cases h with
  | removed identifier => simp [change?, identifier]
  | bare identifier =>
      simp [change?, assignment?_of_uncut (uncut_of_isIdentifier identifier), identifier]
  | @valued name value identifier clean =>
      have cut : Text.cut? '=' (name ++ "=" ++ value).toList =
          some (name.toList, value.toList) := by
        have absent := Text.cut?_eq_none_iff.mp (uncut_of_isIdentifier identifier)
        simpa using Text.cut?_append absent value.toList
      simp [change?, assignment?_of_cut cut, identifier, clean]

theorem sorts_change? (removes : Bool) (args : List String) :
    Sorts removes args (args.filterMap (change? removes))
      (args.filter fun arg => (change? removes arg).isNone) := by
  induction args with
  | nil => exact .nil
  | cons arg rest ih =>
      cases read : change? removes arg with
      | none =>
          rw [List.filterMap_cons_none read, List.filter_cons_of_pos (by rw [read]; rfl)]
          refine .invalid (fun change means => ?_) ih
          rw [change?_of_means means] at read
          contradiction
      | some change =>
          rw [List.filterMap_cons_some read, List.filter_cons_of_neg (by simp [read])]
          exact .valid (means_of_change? read) ih

structure VariableCall where
  removes : Bool
  first : String
  rest : List String

namespace VariableCall

def args (call : VariableCall) : List String :=
  call.first :: call.rest

def builtin (call : VariableCall) : Builtin :=
  if call.removes then .unsetVars else .exportVars

end VariableCall

structure Account where
  call : VariableCall
  changes : List Change
  refused : List String

namespace Account

def Sound (account : Account) : Prop :=
  Sorts account.call.removes account.call.args account.changes account.refused

def verdict (account : Account) : Except Halt Unit :=
  if account.refused = [] then .ok ()
  else
    let line := fun arg => account.call.builtin.name ++ ": `" ++ arg ++ "': not a valid identifier"
    .error (.failed (.builtinFailed ("\n".intercalate (account.refused.map line)) 1))

end Account

def VariableCall.account (call : VariableCall) : Account where
  call := call
  changes := call.args.filterMap (change? call.removes)
  refused := call.args.filter fun arg => (change? call.removes arg).isNone

theorem VariableCall.account_sound (call : VariableCall) : call.account.Sound :=
  sorts_change? call.removes call.args

def Running.changed (running : Running σ) (changes : List Change) : Running σ :=
  { running with shell := { running.shell with
      environment := changes.foldl Environment.change running.shell.environment } }

theorem exportAll_eq (env : Environment) (args : List String) :
    Builtin.exportAll env args = (args.filterMap (change? false)).foldl Environment.change env := by
  have read : args.filterMap (change? false) =
      (args.filterMap Builtin.assignment?).map fun (name, value) => ⟨name, some value⟩ := by
    rw [List.map_filterMap]
    rfl
  rw [read, List.foldl_map]
  rfl

theorem unsetAll_eq (env : Environment) (args : List String) :
    Builtin.unsetAll env args = (args.filterMap (change? true)).foldl Environment.change env := by
  induction args generalizing env with
  | nil => rfl
  | cons arg rest ih =>
      cases identifier : isIdentifier arg with
      | true =>
          have read : change? true arg = some ⟨arg, none⟩ := by simp [change?, identifier]
          rw [List.filterMap_cons_some read, List.foldl_cons, ← ih, Builtin.unsetAll,
            List.filter_cons_of_pos identifier]
          rfl
      | false =>
          have read : change? true arg = none := by simp [change?, identifier]
          rw [List.filterMap_cons_none read, ← ih, Builtin.unsetAll,
            List.filter_cons_of_neg (by simp [identifier])]
          rfl

/-- What both builtins do with their arguments, once those that are not valid are known. -/
theorem run_changing (change : Environment → Environment) (builtin : Builtin) (bad : List String)
    (running : Running σ) :
    (do ShellM.changeEnvironment change
        if bad ≠ [] then ShellM.fail (Builtin.invalidIdentifiers builtin bad) :
          ShellM σ Unit).run running =
      (if bad = [] then .ok () else .error (.failed (Builtin.invalidIdentifiers builtin bad)),
        { running with shell := { running.shell with
            environment := change running.shell.environment } }) := by
  rw [ShellM.run_bind, ShellM.run_changeEnvironment]
  by_cases none : bad = []
  · rw [if_neg (not_not_intro none), if_pos none]
    rfl
  · rw [if_pos none, if_neg none]
    rfl

/-- A call of either builtin with at least one argument writes nothing. -/
theorem run_variableCall (h : Host σ) (write : Writer σ) (call : VariableCall)
    (running : Running σ) :
    (call.builtin.run h write call.args).run running =
      (call.account.verdict, running.changed call.account.changes) := by
  obtain ⟨removes, first, rest⟩ := call
  cases removes with
  | false =>
      have bad : (first :: rest).filter (fun arg => (change? false arg).isNone) =
          (first :: rest).filter fun arg => (Builtin.assignment? arg).isNone :=
        List.filter_congr fun arg _ => by simp [change?]
      have ran := run_changing (σ := σ) (Builtin.exportAll · (first :: rest)) .exportVars
        ((first :: rest).filter fun arg => (Builtin.assignment? arg).isNone) running
      rw [exportAll_eq] at ran
      rw [VariableCall.account, VariableCall.args, bad]
      exact ran
  | true =>
      have bad : (first :: rest).filter (fun arg => (change? true arg).isNone) =
          (first :: rest).filter (!isIdentifier ·) :=
        List.filter_congr fun arg _ => by cases known : isIdentifier arg <;> simp [change?, known]
      have ran := run_changing (σ := σ) (Builtin.unsetAll · (first :: rest)) .unsetVars
        ((first :: rest).filter (!isIdentifier ·)) running
      rw [unsetAll_eq] at ran
      rw [VariableCall.account, VariableCall.args, bad]
      exact ran

/-- Calls one after another, with how each ended; a call that fails stops none of those after it. -/
def callAll (h : Host σ) (write : Writer σ) :
    List VariableCall → Running σ → List (Except Halt Unit) × Running σ
  | [], running => ([], running)
  | call :: rest, running =>
      let (result, next) := (call.builtin.run h write call.args).run running
      let (results, last) := callAll h write rest next
      (result :: results, last)

theorem callAll_eq (h : Host σ) (write : Writer σ) (calls : List VariableCall)
    (running : Running σ) :
    callAll h write calls running =
      (calls.map (·.account.verdict), running.changed (calls.flatMap (·.account.changes))) := by
  induction calls generalizing running with
  | nil => rfl
  | cons call rest ih =>
      simp only [callAll, run_variableCall, ih, List.map_cons, List.flatMap_cons]
      simp only [Running.changed, List.foldl_append]

theorem reference?_named {name after : List Char} (solid : name ≠ [])
    (inside : ∀ c ∈ name, isNameChar c = true) (outside : ∀ c ∈ after.head?, isNameChar c = false) :
    reference? (name ++ after) = some { name, written := name } := by
  have front := (takeWhile_append_of_head inside outside).1
  unfold reference?
  split
  · next others brace => exact absurd brace (Stretch.unbraced_name solid inside)
  · rw [front]
    cases name with
    | nil => contradiction
    | cons c more => rfl

theorem reference?_braced {name : List Char} (solid : name ≠ []) (closed : '\x7d' ∉ name)
    (after : List Char) :
    reference? ('\x7b' :: name ++ ['\x7d'] ++ after) =
      some { name, written := '\x7b' :: name ++ ['\x7d'] } := by
  have cut := Text.cut?_append closed after
  simp only [reference?, List.cons_append, List.append_assoc, List.nil_append, cut]
  cases name with
  | nil => contradiction
  | cons c more => rfl

/-- A line that is a reference and a text without dollar signs. -/
theorem expandVariables_reference (ref : Reference) {after : List Char}
    (found : reference? (ref.written ++ after) = some ref) (plain : '$' ∉ after)
    (lookup : String → Option String) :
    expandVariables lookup (String.ofList ('$' :: (ref.written ++ after))) =
      (lookup (String.ofList ref.name)).getD "" ++ String.ofList after := by
  have rest : expandWhere unslashed lookup ([] ++ '$' :: ref.written) (after ++ []) =
      after ++ [] := by
    rw [expandWhere_append plain, expandWhere_nil]
  rw [List.append_nil] at rest
  rw [expandVariables_eq_expandWhere, String.toList_ofList, expandWhere_live rfl found, rest,
    String.ofList_append, String.ofList_toList]
  rfl

/-- A reference to a name that can be exported, in braces or before a text that does not go on with
the name, is read as the value of the variable. -/
theorem expandVariables_identifier {name : String} (identifier : isIdentifier name = true)
    (lookup : String → Option String) :
    expandVariables lookup ("$\x7b" ++ name ++ "\x7d") = (lookup name).getD "" ∧
    ∀ text, '$' ∉ text.toList → (∀ c ∈ text.toList.head?, isNameChar c = false) →
      expandVariables lookup ("$" ++ name ++ text) = (lookup name).getD "" ++ text := by
  obtain ⟨solid, inside⟩ := isNameChar_of_isIdentifier identifier
  refine ⟨?_, fun text plain outside => ?_⟩
  · have closed : '\x7d' ∉ name.toList := fun mem => absurd (inside _ mem) (by decide)
    have read := expandVariables_reference ⟨name.toList, _⟩
      (reference?_braced solid closed []) List.not_mem_nil lookup
    have line : "$\x7b" ++ name ++ "\x7d" =
        String.ofList ('$' :: ('\x7b' :: name.toList ++ ['\x7d'] ++ [])) := by
      rw [← String.toList_inj]
      simp
    rw [line, read]
    simp
  · have read := expandVariables_reference ⟨name.toList, name.toList⟩
      (reference?_named solid inside outside) plain lookup
    have line : "$" ++ name ++ text = String.ofList ('$' :: (name.toList ++ text.toList)) := by
      rw [← String.toList_inj]
      simp
    rw [line, read]
    simp

/-- What is exported is read back. Each call, of any number, does what its valid arguments mean, in
order, and fails just if some are not valid, with a line about each of these. After them a variable
is what its last change made it, and one that was not named is as it was; a reference to any name
that can be exported is read as the value, and what follows it stays. -/
theorem exported_reads_back (h : Host σ) (write : Writer σ) (calls : List VariableCall)
    (running : Running σ) :
    ∃ accounts : List Account, accounts.map Account.call = calls ∧
      (∀ account ∈ accounts, account.Sound) ∧
      let changes := accounts.flatMap Account.changes
      let (results, last) := callAll h write calls running
      let env := last.shell.environment
      results = accounts.map Account.verdict ∧ last = running.changed changes ∧
      (∀ front change back, changes = front ++ change :: back →
        (∀ later ∈ back, later.name ≠ change.name) → env.get? change.name = change.value) ∧
      (∀ name, (∀ change ∈ changes, change.name ≠ Environment.owner name) →
        env.get? name = running.shell.environment.get? name) ∧
      ∀ name, isIdentifier name = true →
        expandVariables env.get? ("$\x7b" ++ name ++ "\x7d") = (env.get? name).getD "" ∧
        ∀ text, '$' ∉ text.toList → (∀ c ∈ text.toList.head?, isNameChar c = false) →
          expandVariables env.get? ("$" ++ name ++ text) = (env.get? name).getD "" ++ text := by
  have named (change : Change) (mem : change ∈ calls.flatMap (·.account.changes)) :
      isIdentifier change.name = true := by
    obtain ⟨call, -, inside⟩ := List.mem_flatMap.mp mem
    obtain ⟨arg, -, read⟩ := List.mem_filterMap.mp inside
    exact (means_of_change? read).identifier
  refine ⟨calls.map VariableCall.account, ?_, ?_, ?_⟩
  · rw [List.map_map]
    exact List.map_id calls
  · simpa using fun call _ => call.account_sound
  · rw [callAll_eq, List.flatMap_map]
    refine ⟨by rw [List.map_map]; rfl, rfl, fun front change back all others => ?_, ?_, ?_⟩
    · have mem : change ∈ calls.flatMap (·.account.changes) := all ▸ by simp
      rw [Environment.get?_of_isIdentifier (named change mem)]
      simp only [Running.changed, all]
      exact Environment.find?_changes_last front others _
    · intro name others
      exact Environment.get?_congr (Environment.find?_changes_of_ne others _)
    · exact fun name identifier => expandVariables_identifier identifier _

/-- An argument that names nothing is passed over, and a value is not read again. -/
example : expandVariables (Builtin.exportAll {} ["A=1", "2=A", "A=$B=", "B"]).get?
    "$\x7bA\x7d$A-$B." = "$B=$B=-." := by decide +kernel

end LineShell
