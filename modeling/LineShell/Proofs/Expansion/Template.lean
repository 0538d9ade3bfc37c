import LineShell.Proofs.Command.Items
import LineShell.Proofs.Expansion.Mould

/-!
Commands before values are put in. A line has a template that knows nothing of the variables; with
values that are harmless where they stand, the command of the expanded line is the template with
the values put in. So harmless values change the texts of a command and never its shape.
-/
namespace LineShell

/-- The text that tells whether a word is an operator. A dollar sign stands for each value: no
operator is written with it. -/
def Mould.sign (mould : Mould) : String :=
  mould.fill fun _ => some "$"

structure Template where
  args : List Mould := []
  inputFile : Option Mould := none
  outputFile : Option Mould := none
  append : Bool := false
  errorFile : Option Mould := none
  background : Bool := false
  deriving DecidableEq, Repr

namespace Template

def fill (lookup : String → Option String) (template : Template) : Command where
  args := template.args.map (Mould.fill lookup)
  inputFile := template.inputFile.map (Mould.fill lookup)
  outputFile := template.outputFile.map (Mould.fill lookup)
  append := template.append
  errorFile := template.errorFile.map (Mould.fill lookup)
  background := template.background

def redirect (template : Template) (target : Mould) : Redirection → Template
  | .input => { template with inputFile := some target }
  | .output => { template with outputFile := some target, append := false }
  | .appendOutput => { template with outputFile := some target, append := true }
  | .error => { template with errorFile := some target }

def plain (template : Template) (mould : Mould) : Except LineError Template :=
  if mould.sign = "&" then .ok { template with background := true }
  else if isForbidden mould.sign then .error (.unsupportedOperator mould.sign)
  else .ok { template with args := mould :: template.args }

def absorb (template : Template) : List Mould → Except LineError Template
  | [] => .ok template
  | [mould] =>
      match Redirection.ofToken? mould.sign with
      | some _ => .error (.missingTarget mould.sign)
      | none => template.plain mould
  | mould :: next :: rest =>
      match Redirection.ofToken? mould.sign with
      | some redirection => (template.redirect next redirection).absorb rest
      | none =>
          match template.plain mould with
          | .ok template => template.absorb (next :: rest)
          | .error e => .error e

def ofMoulds (moulds : List Mould) : Except LineError Template :=
  match ({} : Template).absorb moulds with
  | .error e => .error e
  | .ok template =>
      if template.args.isEmpty then .error .emptyCommand
      else .ok { template with args := template.args.reverse }

def ofLine (line : String) : Except LineError Template :=
  match (({} : Sketch).scan ((pieces line.toList).flatMap Piece.parts)).finish with
  | .error e => .error e
  | .ok moulds => ofMoulds moulds

end Template

namespace Mould
variable {lookup : String → Option String} {mould : Mould}

theorem fill_eq_of_fixed (h : mould.Fixed) (f g : String → Option String) :
    mould.fill f = mould.fill g := by
  unfold fill
  congr 1
  apply List.flatMap_congr
  intro part mem
  cases part with
  | char c => rfl
  | value name => exact absurd mem (h name)

theorem mem_operatorChars {token : String} (h : token ∈ operators) :
    ∀ c ∈ token.toList, c ∈ operatorChars := by
  have all : (operators.all fun token => token.toList.all (· ∈ operatorChars)) = true := by
    decide
  simpa using List.all_eq_true.mp all token h

theorem not_operator {part : Part} (mem : part ∈ mould)
    (telling : ∃ c ∈ part.fill lookup, c ∉ operatorChars) : mould.fill lookup ∉ operators := by
  intro operator
  obtain ⟨c, inside, other⟩ := telling
  refine other (mem_operatorChars operator c ?_)
  rw [fill, String.toList_ofList]
  exact List.mem_flatMap.mpr ⟨part, mem, inside⟩

/-- A word with values is no operator, nor is its sign; without values the word is its sign. -/
theorem fill_eq_sign_or (telling : ∀ part ∈ mould, Sketch.Telling lookup part) :
    mould.fill lookup = mould.sign ∨ mould.fill lookup ∉ operators ∧ mould.sign ∉ operators := by
  by_cases fixed : mould.Fixed
  · exact .inl (fill_eq_of_fixed fixed _ _)
  · rw [Fixed, not_forall] at fixed
    obtain ⟨name, stands⟩ := fixed
    have mem : Part.value name ∈ mould := not_not.mp stands
    have shown : ∃ c ∈ (Part.value name).fill (fun _ => some "$"), c ∉ operatorChars :=
      ⟨'$', by simp [Part.fill], by decide⟩
    exact .inr ⟨not_operator mem (telling _ mem name rfl), not_operator mem shown⟩

theorem ofToken?_fill (telling : ∀ part ∈ mould, Sketch.Telling lookup part) :
    Redirection.ofToken? (mould.fill lookup) = Redirection.ofToken? mould.sign := by
  rcases fill_eq_sign_or telling with same | ⟨word, sign⟩
  · rw [same]
  · rw [Redirection.ofToken?_eq_none word, Redirection.ofToken?_eq_none sign]

end Mould

namespace Template
variable {lookup : String → Option String}

theorem plain_word (template : Template) {mould : Mould} (h : mould.sign ∉ operators) :
    template.plain mould = .ok { template with args := mould :: template.args } := by
  simp [plain, apart_of_word h]

theorem redirect_fill (template : Template) (target : Mould) (redirection : Redirection) :
    (template.fill lookup).redirect (target.fill lookup) redirection =
      (template.redirect target redirection).fill lookup := by
  cases redirection <;> rfl

theorem plain_fill (template : Template) {mould : Mould}
    (telling : ∀ part ∈ mould, Sketch.Telling lookup part) :
    (template.fill lookup).plain (mould.fill lookup) =
      (template.plain mould).map (fill lookup) := by
  rcases Mould.fill_eq_sign_or telling with same | ⟨word, sign⟩
  · rw [Command.plain, plain, same]
    split
    · rfl
    · split
      · rfl
      · rw [← same]
        rfl
  · rw [Command.plain_word _ word, plain_word _ sign]
    rfl

/-- Taking the words and putting values in can change places. -/
theorem absorb_fill (template : Template) {moulds : List Mould}
    (telling : ∀ mould ∈ moulds, ∀ part ∈ mould, Sketch.Telling lookup part) :
    (template.fill lookup).absorb (moulds.map (Mould.fill lookup)) =
      (template.absorb moulds).map (fill lookup) := by
  induction template, moulds using absorb.induct with
  | case1 template => simp [absorb, Command.absorb, Except.map]
  | case2 template mould redirection found =>
      have here := telling mould List.mem_cons_self
      have named := (Mould.ofToken?_fill here).trans found
      have same : mould.fill lookup = mould.sign := by
        rw [Redirection.eq_operator named, Redirection.eq_operator found]
      simp [absorb, Command.absorb, found, same, Except.map]
  | case3 template mould none =>
      have here := telling mould List.mem_cons_self
      have named := (Mould.ofToken?_fill here).trans none
      simp [absorb, Command.absorb, none, named, plain_fill template here]
  | case4 template mould target rest redirection found ih =>
      have named := (Mould.ofToken?_fill (telling mould List.mem_cons_self)).trans found
      have later := ih fun other mem => telling other (by simp [mem])
      simpa [absorb, Command.absorb, found, named, redirect_fill] using later
  | case5 template mould target rest none next taken ih =>
      have here := telling mould List.mem_cons_self
      have named := (Mould.ofToken?_fill here).trans none
      have later := ih fun other mem => telling other (List.mem_cons_of_mem _ mem)
      have filled := plain_fill template here
      rw [taken] at filled
      simpa [absorb, Command.absorb, none, named, taken, filled, Except.map] using later
  | case6 template mould target rest none e refused =>
      have here := telling mould List.mem_cons_self
      have named := (Mould.ofToken?_fill here).trans none
      have filled := plain_fill template here
      rw [refused] at filled
      simp [absorb, Command.absorb, none, named, refused, filled, Except.map]

theorem ofMoulds_fill {moulds : List Mould}
    (telling : ∀ mould ∈ moulds, ∀ part ∈ mould, Sketch.Telling lookup part) :
    Command.ofTokens (moulds.map (Mould.fill lookup)) = (ofMoulds moulds).map (fill lookup) := by
  have taken := absorb_fill {} telling
  rw [show ({} : Template).fill lookup = {} from rfl] at taken
  rw [Command.ofTokens, ofMoulds, taken]
  cases ({} : Template).absorb moulds with
  | error e => rfl
  | ok template =>
      cases args : template.args with
      | nil => simp [fill, args, Except.map]
      | cons first rest => simp [fill, args, Except.map]

/-- Values put in before the line is read, or put into its template. -/
theorem parse_expandVariables {line : String}
    (harmless : Harmless lookup {} (pieces line.toList)) :
    Command.parse (expandVariables lookup line) = (ofLine line).map (fill lookup) := by
  have apt : ({} : Sketch).Apt lookup := ⟨nofun, nofun, nofun⟩
  obtain ⟨same, apt'⟩ := Sketch.scan_pieces apt (isChain_pieces _) nofun harmless
  have expanded : (expandVariables lookup line).toList =
      (pieces line.toList).flatMap fun piece => (piece.value lookup).toList := by
    simp [expandVariables, List.flatMap_map]
  have read : tokenize (expandVariables lookup line) =
      (({} : Sketch).scan ((pieces line.toList).flatMap Piece.parts)).finish.map
        (List.map (Mould.fill lookup)) := by
    rw [tokenize, expanded, ← Sketch.finish_fill apt', ← same]
    rfl
  rw [Command.parse, ofLine, read]
  cases finished : (({} : Sketch).scan ((pieces line.toList).flatMap Piece.parts)).finish with
  | error e => rfl
  | ok moulds => exact ofMoulds_fill (apt'.finish finished)

structure SameShape (template : Template) (c d : Command) : Prop where
  count : c.args.length = d.args.length
  inputFile : c.inputFile.isSome = d.inputFile.isSome
  outputFile : c.outputFile.isSome = d.outputFile.isSome
  append : c.append = d.append
  errorFile : c.errorFile.isSome = d.errorFile.isSome
  background : c.background = d.background
  fixedArg : ∀ (i : Nat) (mould : Mould), template.args[i]? = some mould → mould.Fixed →
    c.args[i]? = d.args[i]?
  fixedInput : ∀ mould : Mould, template.inputFile = some mould → mould.Fixed →
    c.inputFile = d.inputFile
  fixedOutput : ∀ mould : Mould, template.outputFile = some mould → mould.Fixed →
    c.outputFile = d.outputFile
  fixedError : ∀ mould : Mould, template.errorFile = some mould → mould.Fixed →
    c.errorFile = d.errorFile

theorem sameShape_fill (template : Template) (f g : String → Option String) :
    template.SameShape (template.fill f) (template.fill g) := by
  have fixed : ∀ {file : Option Mould} (mould : Mould), file = some mould → mould.Fixed →
      file.map (Mould.fill f) = file.map (Mould.fill g) := by
    rintro _ mould rfl still
    exact congrArg some (Mould.fill_eq_of_fixed still f g)
  refine ⟨by simp [fill], by simp [fill], by simp [fill], rfl, by simp [fill], rfl, ?_, fixed,
    fixed, fixed⟩
  intro i mould there still
  simpa [fill] using fixed mould there still

end Template

/-- Harmless values change no shape. Two expansions of a line are refused with the same error, or
both are read as commands of the template of the line: as many arguments, the same streams
redirected, the same flags, and the same text wherever no value was put in. -/
theorem parse_expandVariables_same_shape (line : String) (f g : String → Option String)
    (hf : Harmless f {} (pieces line.toList)) (hg : Harmless g {} (pieces line.toList)) :
    (∃ e, Command.parse (expandVariables f line) = .error e ∧
      Command.parse (expandVariables g line) = .error e) ∨
    ∃ template c d, Template.ofLine line = .ok template ∧
      Command.parse (expandVariables f line) = .ok c ∧ c = template.fill f ∧
      Command.parse (expandVariables g line) = .ok d ∧ d = template.fill g ∧
      template.SameShape c d := by
  rw [Template.parse_expandVariables hf, Template.parse_expandVariables hg]
  cases Template.ofLine line with
  | error e => exact .inl ⟨e, rfl, rfl⟩
  | ok template =>
      exact .inr ⟨template, _, _, rfl, rfl, rfl, rfl, rfl, template.sameShape_fill f g⟩

/-- References in either kind of quotes, and one beside a figure that operators are written with. -/
def quotedReferences : String :=
  "p 2$X \"$\x7bX\x7d #\" >> \x27$X\x27. 2> e &"

/-- The values of one run are no operators, though one has the sign of a pipe in it. -/
theorem parse_expandVariables_quoted :
    Harmless (fun _ => some "a|b") {} (pieces quotedReferences.toList) ∧
    Harmless (fun _ => some "=") {} (pieces quotedReferences.toList) ∧
    ∃ template c d, Template.ofLine quotedReferences = .ok template ∧
      Command.parse "p 2a|b \"a|b #\" >> \x27a|b\x27. 2> e &" = .ok c ∧
      Command.parse "p 2= \"= #\" >> \x27=\x27. 2> e &" = .ok d ∧ template.SameShape c d ∧
      c = { args := ["p", "2a|b", "a|b #"], outputFile := some "a|b.", append := true,
            errorFile := some "e", background := true } := by
  have hf : Harmless (fun _ => some "a|b") {} (pieces quotedReferences.toList) := by
    decide +kernel
  have hg : Harmless (fun _ => some "=") {} (pieces quotedReferences.toList) := by
    decide +kernel
  have first : expandVariables (fun _ => some "a|b") quotedReferences =
      "p 2a|b \"a|b #\" >> \x27a|b\x27. 2> e &" := by decide +kernel
  have second : expandVariables (fun _ => some "=") quotedReferences =
      "p 2= \"= #\" >> \x27=\x27. 2> e &" := by decide +kernel
  have read : Command.parse "p 2a|b \"a|b #\" >> \x27a|b\x27. 2> e &" = .ok
      { args := ["p", "2a|b", "a|b #"], outputFile := some "a|b.", append := true,
        errorFile := some "e", background := true } := by decide +kernel
  refine ⟨hf, hg, ?_⟩
  have both := parse_expandVariables_same_shape _ _ _ hf hg
  rw [first, second] at both
  rcases both with ⟨e, failed, -⟩ | ⟨template, c, d, line, hc, -, hd, -, same⟩
  · rw [read] at failed
    contradiction
  · rw [read] at hc
    cases hc
    exact ⟨template, _, d, line, read, hd, same, rfl⟩

end LineShell
