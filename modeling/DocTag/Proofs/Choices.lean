import DocTag.Proofs.Usable
import Mathlib.Data.List.Infix
import Mathlib.Data.List.TakeWhile
import Mathlib.Data.List.Perm.Basic
/-!
Choices, the ways to spell them, and where they stand.

An option that changes a setting may be named by its letter or its word, and
the word may be cut short; a value may be the next argument, or stand behind
the name in the same one.  However it is spelled, a choice is read without
regard to what stands behind it, and acts in one way.  So does a run of
choices, where the last of each kind counts, and a run of operands.

The groups of arguments that spell choices may stand in front of the operands,
behind them, or on both sides.  What such a command line is read as depends on
the operands and on the last choice of each kind, whatever the order of the
rest and the spelling of each.
-/

namespace DocTag

inductive Choice where
  | output (value : Text)
  | fallback (mode : FallbackMode)
  | intraDocLinks
  | strict
deriving DecidableEq, Repr

namespace Choice

def switch : Choice → Switch
  | .output _ => .output
  | .fallback _ => .fallback
  | .intraDocLinks => .intraDocLinks
  | .strict => .strict

def value? : Choice → Option Text
  | .output value => some value
  | .fallback mode => some mode.name
  | .intraDocLinks | .strict => none

def output? : Choice → Option Text
  | .output value => some value
  | .fallback _ | .intraDocLinks | .strict => none

def fallback? : Choice → Option FallbackMode
  | .fallback mode => some mode
  | .output _ | .intraDocLinks | .strict => none

def lastOutput? (choices : List Choice) : Option Text :=
  (choices.filterMap output?).getLast?

def lastFallback? (choices : List Choice) : Option FallbackMode :=
  (choices.filterMap fallback?).getLast?

end Choice

/-- The letter of an option behind a dash, or its word, in full or cut short
behind the first letter or later. -/
def Switch.IsNamed (switch : Switch) (name : Text) : Prop :=
  switch.short? = some name ∨ name <+: switch.long ∧ 2 < name.length

/-- The ways to spell a choice: an option without a value, a value that is the
next argument, one behind an equals sign, and one right behind the letter.  A
value that is not empty and begins with neither a dash nor an equals sign can
be given in each of them. -/
inductive Choice.Spelled (choice : Choice) : List Text → Prop
  | flag {name : Text} (valueless : choice.value? = none)
      (named : choice.switch.IsNamed name) : choice.Spelled [name]
  | apart {name value : Text} (given : choice.value? = some value)
      (named : choice.switch.IsNamed name) (dashless : value.head? ≠ some '-') :
      choice.Spelled [name, value]
  | joined {name value : Text} (given : choice.value? = some value)
      (named : choice.switch.IsNamed name)
      (valued : value ≠ Token.separatorText) :
      choice.Spelled [name ++ '=' :: value]
  | attached {name value : Text} (given : choice.value? = some value)
      (lettered : choice.switch.short? = some name) (nonempty : value ≠ [])
      (signless : value.head? ≠ some '=')
      (valued : value ≠ Token.separatorText) : choice.Spelled [name ++ value]

def Options.after (options : Options) (choices : List Choice) : Options :=
  { options with
    destination := (Choice.lastOutput? choices).elim options.destination
      fun value => .file (Path.ofText value)
    fallback? := (Choice.lastFallback? choices).or options.fallback?
    style := if .intraDocLinks ∈ choices then .intraDoc else options.style
    strict := decide (.strict ∈ choices) || options.strict }

namespace Token

private theorem splitEquals_of_not_mem {text : Text} (signless : '=' ∉ text) :
    splitEquals text = (text, none) := by
  have none : text.dropWhile (· ≠ '=') = [] := by
    rw [List.dropWhile_eq_nil_iff]
    intro character member
    exact decide_eq_true fun same => signless (same ▸ member)
  unfold splitEquals
  rw [none]

private theorem splitEquals_append {text : Text} (signless : '=' ∉ text)
    (value : Text) :
    splitEquals (text ++ '=' :: value) = (text, some value) := by
  have passed : ∀ character ∈ text, decide (character ≠ '=') = true := by
    intro character member
    exact decide_eq_true fun same => signless (same ▸ member)
  unfold splitEquals
  rw [List.dropWhile_append_of_pos passed, List.takeWhile_append_of_pos passed]
  simp

def Gives (argument : Text) (switch : Switch) (value? : Option Text) : Prop :=
  argument ≠ separatorText ∧ ∃ token : Token, ofText argument = .ok token ∧
    Cluster.ofToken? token = some (.ok ⟨[], switch, value?⟩)

end Token

namespace Switch

variable {switch : Switch} {word : Text}

/-- A word that is cut short means its own option alone. -/
theorem candidates_of_prefix (cut : word <+: switch.long)
    (lettered : 2 < word.length) :
    word.take 2 = ['-', '-'] ∧ '=' ∉ word ∧
      Token.candidates word = [switch] := by
  -- The words differ in their first letters, so each cut can be looked at.
  have each : ∀ word ∈ switch.long.inits, 2 < word.length →
      word.take 2 = ['-', '-'] ∧ '=' ∉ word ∧
        Token.candidates word = [switch] := by
    cases switch <;> decide
  exact each word ((List.mem_inits _ _).mpr cut) lettered

theorem isNamed_long (switch : Switch) : switch.IsNamed switch.long := by
  refine .inr ⟨List.prefix_refl _, ?_⟩
  cases switch <;> decide

private theorem gives_of_word {behind : Text} {value? : Option Text}
    (cut : word <+: switch.long) (lettered : 2 < word.length)
    (divided : Token.splitEquals (word ++ behind) = (word, value?))
    (taken : Cluster.single switch value? = .ok ⟨[], switch, value?⟩) :
    Token.Gives (word ++ behind) switch value? := by
  obtain ⟨dashes, -, candidates⟩ := candidates_of_prefix cut lettered
  obtain ⟨letters, rfl⟩ : ∃ letters : Text, word = '-' :: '-' :: letters := by
    refine ⟨word.drop 2, ?_⟩
    rw [← List.take_append_drop 2 word, dashes]
    rfl
  refine ⟨?_, .long switch value?, ?_, congrArg some taken⟩
  · intro same
    cases letters with
    | nil => exact absurd lettered (lt_irrefl 2)
    | cons letter letters => cases same
  · simp only [List.cons_append] at divided ⊢
    simp only [Token.ofText, divided, candidates]

theorem IsNamed.gives {name : Text} (named : switch.IsNamed name) :
    Token.Gives name switch none := by
  rcases named with lettered | ⟨cut, long⟩
  · revert lettered
    cases switch <;> intro lettered <;> cases lettered <;>
      exact ⟨by decide, _, rfl, rfl⟩
  · obtain ⟨-, signless, -⟩ := candidates_of_prefix cut long
    rw [← List.append_nil name]
    refine gives_of_word cut long ?_ rfl
    rw [List.append_nil]
    exact Token.splitEquals_of_not_mem signless

private theorem single_of_takesValue (takes : switch.takesValue = true)
    (value : Text) :
    Cluster.single switch (some value) = .ok ⟨[], switch, some value⟩ := by
  rw [Cluster.single, if_pos takes]

private theorem short?_of_takesValue (takes : switch.takesValue = true)
    {name : Text} (lettered : switch.short? = some name) :
    switch = .output ∧ name = ['-', 'o'] := by
  cases switch with
  | output => exact ⟨rfl, (Option.some.inj lettered).symm⟩
  | fallback => cases lettered
  | help | intraDocLinks | strict | version => cases takes

private theorem gives_attached (takes : switch.takesValue = true)
    {name value : Text}
    (lettered : switch.short? = some name) (nonempty : value ≠ [])
    (signless : value.head? ≠ some '=') :
    Token.Gives (name ++ value) switch (some value) := by
  obtain ⟨rfl, rfl⟩ := short?_of_takesValue takes lettered
  obtain ⟨first, rest, rfl⟩ := List.exists_cons_of_ne_nil nonempty
  have attached : Token.attachment? (first :: rest) = some (first :: rest) := by
    unfold Token.attachment?
    split
    · rename_i empty
      cases empty
    · rename_i sign
      cases sign
      exact absurd rfl signless
    · rfl
  refine ⟨by simp [Token.separatorText], .short .output (some (first :: rest)),
    ?_, rfl⟩
  rw [← attached]
  rfl

theorem IsNamed.gives_joined (takes : switch.takesValue = true) {name : Text}
    (named : switch.IsNamed name) (value : Text) :
    Token.Gives (name ++ '=' :: value) switch (some value) := by
  have taken := single_of_takesValue takes value
  rcases named with lettered | ⟨cut, long⟩
  · obtain ⟨rfl, rfl⟩ := short?_of_takesValue takes lettered
    refine ⟨by simp [Token.separatorText], .short .output (some value), rfl, ?_⟩
    cases value with
    | nil => rfl
    | cons first rest => rfl
  · obtain ⟨-, signless, -⟩ := candidates_of_prefix cut long
    exact gives_of_word cut long (Token.splitEquals_append signless value) taken

end Switch

namespace Choice

variable {choice : Choice} {value : Text}

private theorem takesValue_of_given (given : choice.value? = some value) :
    choice.switch.takesValue = true := by
  cases choice with
  | output value => rfl
  | fallback mode => rfl
  | intraDocLinks => cases given
  | strict => cases given

private theorem takesValue_of_valueless (valueless : choice.value? = none) :
    choice.switch.takesValue = false := by
  cases choice with
  | output value => cases valueless
  | fallback mode => cases valueless
  | intraDocLinks => rfl
  | strict => rfl

end Choice

namespace Progress

def choose (progress : Progress) : Choice → Progress
  | .output value =>
      { progress.close with destination := .file (Path.ofText value) }
  | .fallback mode => { progress.close with fallback? := some mode }
  | .intraDocLinks => { progress.close with style := .intraDoc }
  | .strict => { progress.close with strict := true }

def chooseAll (progress : Progress) (choices : List Choice) : Progress :=
  choices.foldl choose progress

def addOperands (progress : Progress) (operands : List Text) : Progress :=
  operands.foldl addOperand progress

variable {choice : Choice} {value : Text}

private theorem perform_of_valueless (valueless : choice.value? = none)
    (progress : Progress) :
    progress.close.perform choice.switch [] = .ok (progress.choose choice) := by
  cases choice with
  | output value => cases valueless
  | fallback mode => cases valueless
  | intraDocLinks => rfl
  | strict => rfl

private theorem perform_of_given (given : choice.value? = some value)
    (valued : value ≠ Token.separatorText) (progress : Progress) :
    progress.close.perform choice.switch value =
      .ok (progress.choose choice) := by
  cases choice with
  | output text =>
      cases given
      simp only [Choice.switch, perform, if_neg valued]
      rfl
  | fallback mode =>
      cases given
      simp only [Choice.switch, perform, if_neg valued,
        FallbackMode.ofName?_name]
      rfl
  | intraDocLinks => cases given
  | strict => cases given

end Progress

/-- Arguments that are read without regard to what stands behind them, and act
as a whole. -/
def ActAs (arguments : List Text) (act : Progress → Progress) : Prop :=
  ∃ tokens : List Token,
    (∀ rest : List Text, Token.ofTexts (arguments ++ rest) =
      (Token.ofTexts rest).map (tokens ++ ·)) ∧
    ∀ (progress : Progress) (rest : List Token),
      progress.consume (tokens ++ rest) = (act progress).consume rest

namespace ActAs

theorem nil : ActAs [] id := by
  refine ⟨[], ?_, fun progress rest => rfl⟩
  intro rest
  rw [List.nil_append]
  cases Token.ofTexts rest <;> rfl

theorem append {first second : List Text} {act next : Progress → Progress}
    (front : ActAs first act) (back : ActAs second next) :
    ActAs (first ++ second) fun progress => next (act progress) := by
  obtain ⟨tokens, read, acted⟩ := front
  obtain ⟨others, readOthers, actedOthers⟩ := back
  refine ⟨tokens ++ others, ?_, ?_⟩
  · intro rest
    rw [List.append_assoc, read, readOthers]
    cases Token.ofTexts rest with
    | error fault => rfl
    | ok behind =>
        change Except.ok (tokens ++ (others ++ behind)) =
          .ok (tokens ++ others ++ behind)
        rw [List.append_assoc]
  · intro progress rest
    rw [List.append_assoc, acted, actedOthers]

end ActAs

private theorem Token.ofTexts_cons {argument : Text} {token : Token}
    (apart : argument ≠ separatorText) (read : ofText argument = .ok token)
    (rest : List Text) :
    ofTexts (argument :: rest) = (ofTexts rest).map ([token] ++ ·) := by
  rw [ofTexts, if_neg apart, read]
  cases ofTexts rest <;> rfl

private theorem Token.ofText_of_dashless {text : Text}
    (dashless : text.head? ≠ some '-') :
    text ≠ separatorText ∧ ofText text = .ok (.operand text) := by
  constructor
  · rintro rfl
    exact dashless rfl
  · unfold ofText
    split
    · exact absurd rfl dashless
    · exact absurd rfl dashless
    · rfl

theorem Token.Gives.actAs {argument : Text} {switch : Switch}
    {value? : Option Text} (gives : Token.Gives argument switch value?)
    (complete : Cluster.needs? ⟨[], switch, value?⟩ = none)
    {act : Progress → Progress}
    (acts : ∀ progress : Progress,
      progress.close.perform switch (value?.getD []) = .ok (act progress)) :
    ActAs [argument] act := by
  obtain ⟨apart, token, read, option⟩ := gives
  refine ⟨[token], Token.ofTexts_cons apart read, ?_⟩
  intro progress rest
  rw [List.singleton_append, Progress.consume, option]
  dsimp only
  rw [complete]
  change (progress.close.perform switch (value?.getD []) >>= _) = _
  rw [acts]
  rfl

/-- An option takes the next argument, unless that begins with a dash. -/
private theorem Token.Gives.actAs_apart {name value : Text} {switch : Switch}
    (gives : Token.Gives name switch none)
    (takes : switch.takesValue = true) (dashless : value.head? ≠ some '-')
    {act : Progress → Progress}
    (acts : ∀ progress : Progress,
      progress.close.perform switch value = .ok (act progress)) :
    ActAs [name, value] act := by
  obtain ⟨apart, token, read, option⟩ := gives
  obtain ⟨apartValue, readValue⟩ := Token.ofText_of_dashless dashless
  refine ⟨[token, .operand value], ?_, ?_⟩
  · intro rest
    change Token.ofTexts (name :: value :: rest) = _
    rw [Token.ofTexts_cons apart read, Token.ofTexts_cons apartValue readValue]
    cases Token.ofTexts rest <;> rfl
  · intro progress rest
    have needs : Cluster.needs? ⟨[], switch, none⟩ = some switch := by
      rw [Cluster.needs?, takes]
      rfl
    change progress.consume (token :: .operand value :: rest) = _
    rw [Progress.consume, option]
    dsimp only
    rw [needs]
    change (progress.close.perform switch value >>= _) = _
    rw [acts]
    rfl

/-- However it is spelled, a choice acts in one way. -/
theorem Choice.Spelled.actAs {choice : Choice} {arguments : List Text}
    (spelled : choice.Spelled arguments) :
    ActAs arguments fun progress => progress.choose choice := by
  cases spelled with
  | flag valueless named =>
      refine named.gives.actAs ?_ (Progress.perform_of_valueless valueless)
      rw [Cluster.needs?, takesValue_of_valueless valueless]
      rfl
  | apart given named dashless =>
      have valued := (Token.ofText_of_dashless dashless).1
      exact named.gives.actAs_apart (takesValue_of_given given) dashless
        (Progress.perform_of_given given valued)
  | joined given named valued =>
      refine (named.gives_joined (takesValue_of_given given) _).actAs ?_
        (Progress.perform_of_given given valued)
      rw [Cluster.needs?, Bool.and_comm]
      rfl
  | attached given lettered nonempty signless valued =>
      refine (Switch.gives_attached (takesValue_of_given given) lettered nonempty
        signless).actAs ?_ (Progress.perform_of_given given valued)
      rw [Cluster.needs?, Bool.and_comm]
      rfl

/-! ### Runs of choices and operands -/

theorem actAs_flatMap {item : Type} (arguments : item → List Text)
    (choice : item → Choice) {items : List item}
    (spelled : ∀ item ∈ items, (choice item).Spelled (arguments item)) :
    ActAs (items.flatMap arguments) fun progress =>
      progress.chooseAll (items.map choice) := by
  induction items with
  | nil => exact .nil
  | cons item items ih =>
      obtain ⟨first, rest⟩ := List.forall_mem_cons.mp spelled
      exact first.actAs.append (ih rest)

structure OptionGroup where
  choice : Choice
  arguments : List Text
  spelled : choice.Spelled arguments

namespace OptionGroup

def choices (groups : List OptionGroup) : List Choice := groups.map choice

def allArguments (groups : List OptionGroup) : List Text :=
  groups.flatMap arguments

theorem actAs (groups : List OptionGroup) :
    ActAs (allArguments groups) fun progress =>
      progress.chooseAll (choices groups) :=
  actAs_flatMap arguments choice fun group _ => group.spelled

end OptionGroup

theorem actAs_operands {operands : List Text}
    (dashless : ∀ operand ∈ operands, operand.head? ≠ some '-') :
    ActAs operands fun progress => progress.addOperands operands := by
  induction operands with
  | nil => exact .nil
  | cons operand operands ih =>
      obtain ⟨first, others⟩ := List.forall_mem_cons.mp dashless
      obtain ⟨apart, read⟩ := Token.ofText_of_dashless first
      have front : ActAs [operand] fun progress => progress.addOperand operand :=
        ⟨[.operand operand], Token.ofTexts_cons apart read,
          fun progress rest => rfl⟩
      exact front.append (ih others)

namespace Options

theorem after_append (options : Options) (first second : List Choice) :
    options.after (first ++ second) = (options.after first).after second := by
  have outputs : Choice.lastOutput? (first ++ second) =
      (Choice.lastOutput? second).or (Choice.lastOutput? first) := by
    unfold Choice.lastOutput?
    rw [List.filterMap_append, List.getLast?_append]
  have fallbacks : Choice.lastFallback? (first ++ second) =
      (Choice.lastFallback? second).or (Choice.lastFallback? first) := by
    unfold Choice.lastFallback?
    rw [List.filterMap_append, List.getLast?_append]
  unfold after
  rw [outputs, fallbacks, Option.or_assoc]
  congr 1
  · cases Choice.lastOutput? second <;> rfl
  · by_cases later : Choice.intraDocLinks ∈ second <;> simp [later]
  · rw [← Bool.or_assoc, Bool.or_comm (decide (Choice.strict ∈ second))]
    simp

end Options

namespace Progress

theorem finish_choose (progress : Progress) (choice : Choice) :
    (progress.choose choice).finish =
      progress.finish.map fun options => options.after [choice] := by
  obtain ⟨run, destination, fallback?, style, strict, setAside⟩ := progress
  cases setAside with
  | cons argument arguments => cases choice <;> rfl
  | nil => cases run <;> cases choice <;> rfl

theorem finish_chooseAll (progress : Progress) (choices : List Choice) :
    (progress.chooseAll choices).finish =
      progress.finish.map fun options => options.after choices := by
  induction choices generalizing progress with
  | nil =>
      change progress.finish = _
      cases progress.finish <;> rfl
  | cons choice choices ih =>
      change ((progress.choose choice).chooseAll choices).finish = _
      rw [ih, finish_choose]
      cases progress.finish with
      | error stop => rfl
      | ok options =>
          exact congrArg Except.ok (options.after_append [choice] choices).symm

private theorem addOperands_of_reading {progress : Progress} {read : List Text}
    (run : progress.run = .reading read) (operands : List Text) :
    progress.addOperands operands =
      { progress with run := .reading (read ++ operands) } := by
  induction operands generalizing progress read with
  | nil =>
      rw [List.append_nil, ← run]
      rfl
  | cons operand operands ih =>
      change (progress.addOperand operand).addOperands operands = _
      rw [addOperand, run]
      dsimp only
      rw [ih rfl, List.append_assoc]
      rfl

theorem finish_addOperands {progress : Progress}
    (unread : progress.run = .ahead ∨ progress.run = .reading [])
    (operands : List Text) :
    (progress.addOperands operands).finish =
      progress.finish.map fun options =>
        { options with inputs := operands.map Path.ofText } := by
  obtain ⟨run, destination, fallback?, style, strict, setAside⟩ := progress
  rcases unread with rfl | rfl
  · cases operands with
    | nil => cases setAside <;> rfl
    | cons operand operands =>
        have first : addOperand ⟨.ahead, destination, fallback?, style, strict,
            setAside⟩ operand = ⟨.reading [operand], destination, fallback?,
              style, strict, setAside⟩ := rfl
        change (addOperands (addOperand _ operand) operands).finish = _
        rw [first, addOperands_of_reading rfl]
        cases setAside <;> rfl
  · rw [addOperands_of_reading rfl]
    cases setAside <;> rfl

/-- Behind the separator, operands are the inputs in any spelling. -/
theorem finish_separated {progress : Progress} (ahead : progress.run = .ahead)
    (operands : List Text) :
    progress.consume (.separator :: operands.map .operand) >>= finish =
      progress.finish.map fun options =>
        { options with inputs := operands.map Path.ofText } := by
  have read (progress : Progress) :
      progress.consume (operands.map .operand) =
        .ok (progress.addOperands operands) := by
    induction operands generalizing progress with
    | nil => rfl
    | cons operand operands ih => exact ih (progress.addOperand operand)
  have separated :
      progress.addSeparator = { progress with run := .reading [] } := by
    rw [addSeparator, ahead]
  change (progress.addSeparator.consume _ >>= finish) = _
  rw [read, separated]
  change finish (addOperands _ operands) = _
  rw [finish_addOperands (.inr rfl), finish, finish, ahead]
  rfl

theorem chooseAll_ahead {progress : Progress} (ahead : progress.run = .ahead)
    (choices : List Choice) : (progress.chooseAll choices).run = .ahead := by
  induction choices generalizing progress with
  | nil => exact ahead
  | cons choice choices ih =>
      apply ih
      cases choice <;> exact congrArg InputRun.close ahead

end Progress

namespace Options

def standard (environment : Environment) : Options :=
  ⟨[], .standardOutput, some environment.settings.fallback,
    environment.settings.style, false⟩

variable {environment : Environment}

theorem parse_of_actAs {arguments : List Text} {act : Progress → Progress}
    (acts : ActAs arguments act) :
    parse environment arguments =
      (act { fallback? := some environment.settings.fallback,
             style := environment.settings.style }).finish := by
  obtain ⟨tokens, read, acted⟩ := acts
  have readAll := read []
  rw [List.append_nil] at readAll
  rw [parse_of_tokens readAll, acted]
  rfl

end Options

/-- Groups of arguments around one run of operands. -/
structure Arrangement where
  before : List OptionGroup
  operands : List Text
  behind : List OptionGroup
  dashless : ∀ operand ∈ operands, operand.head? ≠ some '-'

namespace Arrangement

def arguments (arrangement : Arrangement) : List Text :=
  OptionGroup.allArguments arrangement.before ++
    (arrangement.operands ++ OptionGroup.allArguments arrangement.behind)

def choices (arrangement : Arrangement) : List Choice :=
  OptionGroup.choices arrangement.before ++
    OptionGroup.choices arrangement.behind

private theorem actAs (arrangement : Arrangement) :
    ActAs arrangement.arguments fun progress =>
      ((progress.chooseAll (OptionGroup.choices arrangement.before)).addOperands
        arrangement.operands).chooseAll
          (OptionGroup.choices arrangement.behind) :=
  (OptionGroup.actAs arrangement.before).append
    ((actAs_operands arrangement.dashless).append
      (OptionGroup.actAs arrangement.behind))

theorem parse_eq (arrangement : Arrangement) (environment : Environment) :
    Options.parse environment arrangement.arguments =
      .ok { (Options.standard environment).after arrangement.choices with
        inputs := arrangement.operands.map Path.ofText } := by
  rw [Options.parse_of_actAs arrangement.actAs, Progress.finish_chooseAll,
    Progress.finish_addOperands (.inl (Progress.chooseAll_ahead rfl _)),
    Progress.finish_chooseAll]
  change Except.ok _ = _
  rw [choices, Options.after_append]
  rfl

end Arrangement

/-- Options may stand before and behind the operands, in any spelling: each
setting is that of the last option that sets it, or else of the environment.
Neither the order of other options, nor their places and spellings, make a
difference. -/
theorem parse_arrangement (environment : Environment)
    (arrangement : Arrangement) :
    Options.parse environment arrangement.arguments =
        .ok
          { inputs := arrangement.operands.map Path.ofText
            destination := (Choice.lastOutput? arrangement.choices).elim
              .standardOutput fun value => .file (Path.ofText value)
            fallback? := some ((Choice.lastFallback? arrangement.choices).getD
              environment.settings.fallback)
            style := if .intraDocLinks ∈ arrangement.choices then .intraDoc
              else environment.settings.style
            strict := decide (.strict ∈ arrangement.choices) } ∧
      ∀ other : Arrangement, other.operands = arrangement.operands →
        other.choices.Perm arrangement.choices →
          Choice.lastOutput? other.choices =
            Choice.lastOutput? arrangement.choices →
          Choice.lastFallback? other.choices =
            Choice.lastFallback? arrangement.choices →
          Options.parse environment other.arguments =
            Options.parse environment arrangement.arguments := by
  constructor
  · rw [arrangement.parse_eq]
    simp only [Options.after, Options.standard, Bool.or_false]
    cases Choice.lastFallback? arrangement.choices <;> rfl
  · intro other operands reordered outputs fallbacks
    rw [other.parse_eq, arrangement.parse_eq, operands]
    simp only [Options.after, outputs, fallbacks, reordered.mem_iff]

/-- The same choices in another order, spelled in another way, and on the other
side of the operand. -/
theorem parse_arrangement_reordered :
    let arguments : List Text := ["--strict".toList, "-o".toList, "out".toList,
      "--fall=keep".toList, "a b".toList]
    let others : List Text := ["a b".toList, "--fallback".toList, "keep".toList,
      "--s".toList, "-oout".toList]
    let options : Options :=
      ⟨[⟨.working, ["a b".toList]⟩], .file ⟨.working, ["out".toList]⟩,
        some .keep, .intraDoc, true⟩
    let environment : Environment := { style? := some " Intra-Doc".toList }
    Options.parse environment arguments = .ok options ∧
      Options.parse environment others = .ok options := by
  intro arguments others options environment
  have letter : Switch.output.IsNamed "-o".toList := .inl rfl
  have cut : Switch.fallback.IsNamed "--fall".toList :=
    .inr ⟨⟨"back".toList, rfl⟩, by decide⟩
  have shortest : Switch.strict.IsNamed "--s".toList :=
    .inr ⟨⟨"trict".toList, rfl⟩, by decide⟩
  let arrangement : Arrangement :=
    { before :=
        [⟨.strict, _, .flag rfl Switch.strict.isNamed_long⟩,
          ⟨.output "out".toList, _, .apart rfl letter (by decide)⟩,
          ⟨.fallback .keep, _, .joined rfl cut (by decide)⟩]
      operands := ["a b".toList]
      behind := []
      dashless := by decide }
  let other : Arrangement :=
    { before := []
      operands := ["a b".toList]
      behind :=
        [⟨.fallback .keep, _,
            .apart rfl Switch.fallback.isNamed_long (by decide)⟩,
          ⟨.strict, _, .flag rfl shortest⟩,
          ⟨.output "out".toList, _,
            .attached rfl rfl (by decide) (by decide) (by decide)⟩]
      dashless := by decide }
  obtain ⟨parsed, same⟩ := parse_arrangement environment arrangement
  have read : Options.parse environment arguments = .ok options := parsed
  have reordered :
      [Choice.fallback .keep, .strict, .output "out".toList].Perm
        [.strict, .output "out".toList, .fallback .keep] := by
    decide
  exact ⟨read, (same other rfl reordered rfl rfl).trans read⟩

end DocTag
