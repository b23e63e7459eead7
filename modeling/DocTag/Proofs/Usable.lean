import DocTag.Proofs.Events
import Mathlib.Data.List.Chain
/-!
Options that can be carried out.

The texts in a token are ends of the argument that it was read from, so a
command line without the character zero names no path with it.  Two dashes of
their own are never a value: before the separator they are the separator, and
behind it no option is left.  So unless they are attached to an option, what
the reading gives has a destination, and modes that there are.
-/

namespace DocTag

/-- Two dashes are attached to an option as its value. -/
def AttachesSeparator (arguments : List Text) : Prop :=
  ∃ (tokens : List Token) (token : Token) (cluster : Cluster),
    Token.ofTexts arguments = .ok tokens ∧ token ∈ tokens ∧
      Cluster.ofToken? token = some (.ok cluster) ∧
      cluster.value? = some Token.separatorText

def Token.texts : Token → List Text
  | .operand text => [text]
  | .separator => []
  | .short _ attached? => attached?.toList
  | .long _ value? => value?.toList
  | .unknown text => [text]

/-- Tokens where two dashes never come to be the value of an option. -/
structure Token.Valued (tokens : List Token) : Prop where
  attached : ∀ token ∈ tokens, ∀ cluster : Cluster,
    Cluster.ofToken? token = some (.ok cluster) →
      cluster.value? ≠ some Token.separatorText
  apart : tokens.IsChain fun token next =>
    Cluster.ofToken? token ≠ none → next ≠ .operand Token.separatorText

structure Token.Fit (tokens : List Token) : Prop extends
    Token.Valued tokens where
  clean : ∀ token ∈ tokens, ∀ text ∈ token.texts, '\x00' ∉ text

/-- What each part of a reading keeps, as long as the texts that it is given
pass. -/
structure Progress.Kept (passes : Text → Prop) (motive : Progress → Prop) :
    Prop where
  suffix : ∀ {text value : Text}, passes text → value <:+ text → passes value
  empty : passes []
  close : ∀ {progress : Progress}, motive progress → motive progress.close
  addToken : ∀ {progress : Progress} {token : Token}, motive progress →
    (∀ text ∈ token.texts, passes text) → motive (progress.addToken token)
  perform : ∀ {progress after : Progress} {switch : Switch} {value : Text},
    motive progress → passes value → value ≠ Token.separatorText →
      progress.perform switch value = .ok after → motive after

def Destination.Usable : Destination → Prop
  | .standardOutput => True
  | .nowhere => False
  | .file path => path.hasNul = false

structure HasPlaceAndMode (destination : Destination)
    (fallback? : Option FallbackMode) : Prop where
  destination : destination.Usable
  fallback : fallback? ≠ none

structure Progress.Usable (progress : Progress) : Prop extends
    HasPlaceAndMode progress.destination progress.fallback? where
  operands : ∀ operand ∈ progress.run.operands, '\x00' ∉ operand

structure Options.Usable (options : Options) : Prop extends
    HasPlaceAndMode options.destination options.fallback? where
  inputs : ∀ path ∈ options.inputs, path.hasNul = false

private theorem exists_of_bind_eq_ok {fault first second : Type}
    {reading : Except fault first} {next : first → Except fault second}
    {result : second} (read : reading >>= next = .ok result) :
    ∃ value : first, reading = .ok value ∧ next value = .ok result := by
  cases reading with
  | error fault => cases read
  | ok value => exact ⟨value, rfl, read⟩

namespace Token

private theorem suffix_of_attachment? {behind attached : Text}
    (read : attachment? behind = some attached) : attached <:+ behind := by
  unfold attachment? at read
  split at read
  · cases read
  · cases read
    exact List.suffix_cons '=' _
  · cases read
    exact List.suffix_refl _

private theorem suffix_of_splitEquals {text value : Text}
    (read : (splitEquals text).2 = some value) : value <:+ text := by
  unfold splitEquals at read
  cases behind : text.dropWhile (· ≠ '=') with
  | nil =>
      rw [behind] at read
      cases read
  | cons sign rest =>
      rw [behind] at read
      cases read
      have ends : sign :: value <:+ text := by
        rw [← behind]
        exact List.dropWhile_suffix _
      exact (List.suffix_cons sign value).trans ends

private theorem ofOther_cases (text : Text) :
    ofOther text = .operand text ∨ ofOther text = .unknown text := by
  unfold ofOther
  split
  · exact .inl rfl
  · exact .inr rfl

private theorem ofText_cases {text : Text} {token : Token}
    (read : ofText text = .ok token) :
    token = .operand text ∨ token = .unknown text ∨
      (∃ (switch : Switch) (attached? : Option Text),
        token = .short switch attached? ∧
          ∀ attached : Text, attached? = some attached → attached <:+ text) ∨
      ∃ (switch : Switch) (value? : Option Text),
        token = .long switch value? ∧
          ∀ value : Text, value? = some value → value <:+ text := by
  have other (same : token = ofOther text) :
      token = .operand text ∨ token = .unknown text := by
    rw [same]
    exact ofOther_cases text
  unfold ofText at read
  split at read
  · rename_i rest
    split at read
    rename_i word value? divided
    split at read
    · exact (other (Except.ok.inj read).symm).imp_right .inl
    · rename_i switch found
      refine .inr (.inr (.inr ⟨switch, value?, (Except.ok.inj read).symm, ?_⟩))
      intro value given
      apply suffix_of_splitEquals
      rw [divided]
      exact given
    · cases read
  · rename_i letter behind _
    split at read
    · rename_i switch found
      refine .inr (.inr (.inl ⟨switch, _, (Except.ok.inj read).symm, ?_⟩))
      intro attached given
      have front : behind <:+ '-' :: letter :: behind :=
        ⟨['-', letter], rfl⟩
      exact (suffix_of_attachment? given).trans front
    · exact (other (Except.ok.inj read).symm).imp_right .inl
  · exact .inl (Except.ok.inj read).symm

private theorem suffix_of_mem_texts {argument : Text} {token : Token}
    (read : ofText argument = .ok token) {text : Text}
    (member : text ∈ token.texts) : text <:+ argument := by
  rcases ofText_cases read with
    rfl | rfl | ⟨switch, attached?, rfl, ends⟩ | ⟨switch, value?, rfl, ends⟩
  · obtain rfl := List.mem_singleton.mp member
    exact List.suffix_refl text
  · obtain rfl := List.mem_singleton.mp member
    exact List.suffix_refl text
  · exact ends text (Option.mem_toList.mp member)
  · exact ends text (Option.mem_toList.mp member)

private theorem ofText_ne_operand {argument other : Text}
    (apart : argument ≠ other) : ofText argument ≠ .ok (.operand other) := by
  intro read
  rcases ofText_cases read with
    same | impossible | ⟨_, _, impossible, _⟩ | ⟨_, _, impossible, _⟩
  · cases same
    exact apart rfl
  · cases impossible
  · cases impossible
  · cases impossible

private theorem ofTexts_cons_eq_ok {argument : Text} {arguments : List Text}
    {tokens : List Token}
    (read : ofTexts (argument :: arguments) = .ok tokens) :
    argument = separatorText ∧
        tokens = .separator :: arguments.map .operand ∨
      argument ≠ separatorText ∧ ∃ (token : Token) (rest : List Token),
        ofText argument = .ok token ∧ ofTexts arguments = .ok rest ∧
          tokens = token :: rest := by
  rw [ofTexts] at read
  by_cases separates : argument = separatorText
  · rw [if_pos separates] at read
    exact .inl ⟨separates, (Except.ok.inj read).symm⟩
  · rw [if_neg separates] at read
    obtain ⟨token, first, read⟩ := exists_of_bind_eq_ok read
    obtain ⟨rest, behind, read⟩ := exists_of_bind_eq_ok read
    exact .inr ⟨separates, token, rest, first, behind,
      (Except.ok.inj read).symm⟩

private theorem not_mem_of_ofTexts {character : Char} {arguments : List Text}
    {tokens : List Token} (read : ofTexts arguments = .ok tokens)
    (clean : ∀ argument ∈ arguments, character ∉ argument) :
    ∀ token ∈ tokens, ∀ text ∈ token.texts, character ∉ text := by
  induction arguments generalizing tokens with
  | nil =>
      cases read
      intro token member
      cases member
  | cons argument arguments ih =>
      have cleanRest : ∀ other ∈ arguments, character ∉ other :=
        fun other member => clean other (List.mem_cons_of_mem _ member)
      intro token member text part
      rcases ofTexts_cons_eq_ok read with
        ⟨-, rfl⟩ | ⟨-, first, rest, readFirst, readRest, rfl⟩
      · rcases List.mem_cons.mp member with rfl | behind
        · cases part
        · obtain ⟨operand, present, rfl⟩ := List.mem_map.mp behind
          obtain rfl := List.mem_singleton.mp part
          exact cleanRest text present
      · rcases List.mem_cons.mp member with rfl | behind
        · have ends := suffix_of_mem_texts readFirst part
          exact fun held => clean argument List.mem_cons_self (ends.mem held)
        · exact ih readRest cleanRest token behind text part

/-- Two dashes can be an operand only behind an operand or the separator. -/
private theorem isChain_of_ofTexts {arguments : List Text} {tokens : List Token}
    (read : ofTexts arguments = .ok tokens) :
    tokens.head? ≠ some (.operand separatorText) ∧
      tokens.IsChain fun token next =>
        Cluster.ofToken? token ≠ none → next ≠ .operand separatorText := by
  induction arguments generalizing tokens with
  | nil =>
      cases read
      exact ⟨by simp, .nil⟩
  | cons argument arguments ih =>
      rcases ofTexts_cons_eq_ok read with
        ⟨-, rfl⟩ | ⟨apart, first, rest, readFirst, readRest, rfl⟩
      · refine ⟨by simp, List.isChain_cons.mpr ⟨?_, ?_⟩⟩
        · intro next _ option
          exact (option rfl).elim
        · rw [List.isChain_map]
          apply List.Pairwise.isChain
          apply List.pairwise_of_forall_mem_list
          intro operand _ next _ option
          exact (option rfl).elim
      · obtain ⟨head, chain⟩ := ih readRest
        constructor
        · intro same
          rw [List.head?_cons, Option.some_inj] at same
          subst same
          exact ofText_ne_operand apart readFirst
        · rw [List.isChain_cons]
          refine ⟨?_, chain⟩
          intro next leads _ same
          subst same
          exact head leads

theorem Valued.of_ofTexts {arguments : List Text} {tokens : List Token}
    (read : ofTexts arguments = .ok tokens)
    (valued : ¬ AttachesSeparator arguments) : Valued tokens where
  attached := fun token member cluster spelled dashes =>
    valued ⟨tokens, token, cluster, read, member, spelled, dashes⟩
  apart := (isChain_of_ofTexts read).2

theorem Valued.tail {token : Token} {tokens : List Token}
    (valued : Valued (token :: tokens)) : Valued tokens where
  attached := fun other member =>
    valued.attached other (List.mem_cons_of_mem _ member)
  apart := valued.apart.tail

theorem Fit.of_ofTexts {arguments : List Text} {tokens : List Token}
    (read : ofTexts arguments = .ok tokens)
    (clean : ∀ argument ∈ arguments, '\x00' ∉ argument)
    (valued : ¬ AttachesSeparator arguments) : Fit tokens where
  toValued := .of_ofTexts read valued
  clean := not_mem_of_ofTexts read clean

end Token

namespace Cluster

private theorem single_eq_ok {switch : Switch} {value? : Option Text}
    {cluster : Cluster} (read : single switch value? = .ok cluster) :
    cluster = ⟨[], switch, value?⟩ := by
  cases value? with
  | none => exact (Except.ok.inj read).symm
  | some value =>
      by_cases takes : switch.takesValue = true
      · rw [single, if_pos takes] at read
        exact (Except.ok.inj read).symm
      · rw [single, if_neg takes] at read
        cases read

private theorem suffix_of_ofLetters {switch : Switch} {letters value : Text}
    {cluster : Cluster} (spelled : ofLetters switch letters = .ok cluster)
    (given : cluster.value? = some value) : value <:+ letters := by
  induction letters generalizing switch cluster with
  | nil =>
      obtain rfl := single_eq_ok spelled
      cases given
  | cons letter rest ih =>
      rw [ofLetters] at spelled
      by_cases takes : switch.takesValue = true
      · rw [if_pos takes] at spelled
        obtain rfl := single_eq_ok spelled
        cases given
        exact List.suffix_refl _
      · rw [if_neg takes] at spelled
        cases named : Switch.ofLetter? letter with
        | none =>
            rw [named] at spelled
            cases spelled
        | some next =>
            cases others : ofLetters next rest with
            | error fault =>
                rw [named] at spelled
                simp only [others] at spelled
                cases spelled
            | ok behind =>
                rw [named] at spelled
                simp only [others] at spelled
                cases spelled
                exact (ih others given).trans (List.suffix_cons letter rest)

private theorem suffix_of_ofToken? {token : Token} {cluster : Cluster}
    {value : Text} (spelled : ofToken? token = some (.ok cluster))
    (given : cluster.value? = some value) :
    ∃ text ∈ token.texts, value <:+ text := by
  have whole {switch : Switch} {value? : Option Text}
      (read : single switch value? = .ok cluster) :
      ∃ text ∈ value?.toList, value <:+ text := by
    obtain rfl := single_eq_ok read
    exact ⟨value, Option.mem_toList.mpr given, List.suffix_refl value⟩
  cases token with
  | operand text => cases spelled
  | separator => cases spelled
  | unknown text => cases spelled
  | long switch value? => exact whole (Option.some.inj spelled)
  | short switch attached? =>
      cases attached? with
      | none => exact whole (Option.some.inj spelled)
      | some attached =>
          cases attached with
          | nil => exact whole (Option.some.inj spelled)
          | cons letter rest =>
              have ends := suffix_of_ofLetters (Option.some.inj spelled) given
              exact ⟨letter :: rest, List.mem_singleton.mpr rfl, ends⟩

end Cluster

/-! ### What a reading keeps -/

namespace Progress

section Kept

variable {passes : Text → Prop} {motive : Progress → Prop}
  {progress after : Progress} {cluster : Cluster}

private theorem Kept.performFlags (kept : Kept passes motive)
    {before : List Switch} (held : motive progress)
    (acted : before.foldlM (fun progress switch => progress.perform switch [])
      progress = .ok after) : motive after := by
  induction before generalizing progress with
  | nil =>
      cases acted
      exact held
  | cons switch before ih =>
      rw [List.foldlM_cons] at acted
      obtain ⟨next, first, acted⟩ := exists_of_bind_eq_ok acted
      exact ih (kept.perform held kept.empty (by decide) first) acted

/-- The value that an option acts with is attached to the option, or it is the
operand behind it. -/
private theorem Kept.performCluster (kept : Kept passes motive) {token : Token}
    {tokens : List Token} {operand : Text} (held : motive progress)
    (valued : Token.Valued (token :: tokens))
    (texts : ∀ text ∈ token.texts, passes text)
    (spelled : Cluster.ofToken? token = some (.ok cluster))
    (passed : passes operand) (apart : operand ≠ Token.separatorText)
    (acted : cluster.perform operand progress = .ok after) : motive after := by
  obtain ⟨next, flags, acted⟩ := exists_of_bind_eq_ok acted
  have heldNext := kept.performFlags held flags
  cases given : cluster.value? with
  | none =>
      rw [given] at acted
      exact kept.perform heldNext passed apart acted
  | some value =>
      rw [given] at acted
      obtain ⟨text, part, ends⟩ := Cluster.suffix_of_ofToken? spelled given
      refine kept.perform heldNext (kept.suffix (texts text part) ends) ?_ acted
      rintro rfl
      exact valued.attached token List.mem_cons_self cluster spelled given

theorem Kept.consume (kept : Kept passes motive) {tokens : List Token}
    (held : motive progress) (valued : Token.Valued tokens)
    (texts : ∀ token ∈ tokens, ∀ text ∈ token.texts, passes text)
    (read : progress.consume tokens = .ok after) : motive after := by
  -- The options of an argument act after the run of operands was closed; an
  -- option that takes the next argument uses up two tokens.
  fun_induction Progress.consume progress tokens with
  | case1 progress =>
      cases read
      exact held
  | case2 progress token tokens other ih =>
      obtain ⟨first, rest⟩ := List.forall_mem_cons.mp texts
      exact ih (kept.addToken held first) valued.tail rest read
  | case3 progress token tokens fault refused => cases read
  | case4 progress token tokens cluster spelled complete ih =>
      obtain ⟨next, acted, read⟩ := exists_of_bind_eq_ok read
      obtain ⟨first, rest⟩ := List.forall_mem_cons.mp texts
      have heldNext := kept.performCluster (kept.close held) valued first
        spelled kept.empty (by decide) acted
      exact ih next heldNext valued.tail rest read
  | case5 progress token cluster spelled switch needed value rest ih =>
      obtain ⟨next, acted, read⟩ := exists_of_bind_eq_ok read
      obtain ⟨first, second, rest⟩ := by
        simpa only [List.forall_mem_cons] using texts
      have passed : passes value := second value (List.mem_singleton.mpr rfl)
      have apart : value ≠ Token.separatorText := by
        rintro rfl
        have beside := (List.isChain_cons_cons.mp valued.apart).1
        apply beside
        · rw [spelled]
          exact Option.some_ne_none _
        · rfl
      have heldNext := kept.performCluster (kept.close held) valued first
        spelled passed apart acted
      exact ih next heldNext valued.tail.tail rest read
  | case6 progress token tokens cluster spelled switch needed missing =>
      cases read

end Kept

variable {progress after : Progress}

private theorem Usable.close (usable : progress.Usable) :
    progress.close.Usable := by
  refine ⟨usable.toHasPlaceAndMode, ?_⟩
  have operands := usable.operands
  unfold Progress.close
  cases run : progress.run with
  | ahead => exact fun operand member => by cases member
  | reading read =>
      rw [run] at operands
      exact operands
  | closed read =>
      rw [run] at operands
      exact operands

private theorem Usable.addToken (usable : progress.Usable) {token : Token}
    (clean : ∀ text ∈ token.texts, '\x00' ∉ text) :
    (progress.addToken token).Usable := by
  have operands := usable.operands
  cases token with
  | operand text =>
      have named : '\x00' ∉ text := clean text (List.mem_singleton.mpr rfl)
      unfold Progress.addToken addOperand
      cases run : progress.run with
      | ahead =>
          refine ⟨usable.toHasPlaceAndMode, ?_⟩
          intro operand member
          obtain rfl := List.mem_singleton.mp member
          exact named
      | reading read =>
          rw [run] at operands
          refine ⟨usable.toHasPlaceAndMode, ?_⟩
          intro operand member
          rcases List.mem_append.mp member with before | last
          · exact operands operand before
          · obtain rfl := List.mem_singleton.mp last
            exact named
      | closed read =>
          rw [run] at operands
          exact ⟨usable.toHasPlaceAndMode, operands⟩
  | separator =>
      unfold Progress.addToken addSeparator
      cases run : progress.run with
      | ahead =>
          refine ⟨usable.toHasPlaceAndMode, ?_⟩
          intro operand member
          cases member
      | reading read => exact usable
      | closed read =>
          rw [run] at operands
          exact ⟨usable.toHasPlaceAndMode, operands⟩
  | unknown text =>
      exact ⟨usable.toHasPlaceAndMode, usable.close.operands⟩
  | short switch attached? => exact usable
  | long switch value? => exact usable

/-- An option keeps what is usable, as long as its value names no path that
there cannot be, and is not two dashes. -/
theorem Usable.perform (usable : progress.Usable) {switch : Switch}
    {value : Text} (clean : '\x00' ∉ value)
    (valued : value ≠ Token.separatorText)
    (acted : progress.perform switch value = .ok after) : after.Usable := by
  cases switch with
  | help => cases acted
  | version => cases acted
  | intraDocLinks | strict =>
      cases acted
      exact ⟨usable.toHasPlaceAndMode, usable.operands⟩
  | output =>
      simp only [Progress.perform, if_neg valued] at acted
      cases acted
      exact ⟨⟨Path.hasNul_ofText clean, usable.fallback⟩, usable.operands⟩
  | fallback =>
      simp only [Progress.perform, if_neg valued] at acted
      cases named : FallbackMode.ofName? value with
      | none =>
          rw [named] at acted
          cases acted
      | some mode =>
          rw [named] at acted
          cases acted
          exact ⟨⟨usable.destination, Option.some_ne_none mode⟩,
            usable.operands⟩

/-- A reading that comes through fit tokens has met nothing that cannot be
used. -/
theorem Usable.kept : Kept (fun text => '\x00' ∉ text) Usable where
  suffix := fun clean ends held => clean (ends.mem held)
  empty := List.not_mem_nil
  close := Usable.close
  addToken := fun usable clean => usable.addToken clean
  perform := fun usable clean valued acted =>
    usable.perform clean valued acted

theorem Usable.consume {tokens : List Token} (fit : Token.Fit tokens)
    (usable : progress.Usable) (read : progress.consume tokens = .ok after) :
    after.Usable :=
  Usable.kept.consume usable fit.toValued fit.clean read

end Progress

theorem Progress.finish_eq_ok {progress : Progress} {options : Options}
    (finished : progress.finish = .ok options) :
    options = ⟨progress.run.operands.map Path.ofText, progress.destination,
      progress.fallback?, progress.style, progress.strict⟩ := by
  unfold Progress.finish at finished
  cases aside : progress.setAside with
  | cons argument arguments =>
      rw [aside] at finished
      cases finished
  | nil =>
      rw [aside] at finished
      exact (Except.ok.inj finished).symm

namespace Options

theorem parse_eq_ok {environment : Environment} {arguments : List Text}
    {options : Options} (parsed : parse environment arguments = .ok options) :
    ∃ (tokens : List Token) (progress : Progress),
      Token.ofTexts arguments = .ok tokens ∧
        Progress.consume
            { fallback? := some environment.settings.fallback,
              style := environment.settings.style } tokens = .ok progress ∧
          progress.finish = .ok options := by
  cases read : Token.ofTexts arguments with
  | error fault =>
      rw [parse_of_ambiguous read] at parsed
      cases parsed
  | ok tokens =>
      rw [parse_of_tokens read] at parsed
      obtain ⟨progress, consumed, finished⟩ := exists_of_bind_eq_ok parsed
      exact ⟨tokens, progress, rfl, consumed, finished⟩

private theorem usable_of_finish {progress : Progress} {options : Options}
    (usable : progress.Usable) (finished : progress.finish = .ok options) :
    options.Usable := by
  rw [Progress.finish_eq_ok finished]
  refine ⟨usable.toHasPlaceAndMode, ?_⟩
  intro path member
  obtain ⟨operand, present, rfl⟩ := List.mem_map.mp member
  exact Path.hasNul_ofText (usable.operands operand present)

theorem usable_of_parse {environment : Environment} {arguments : List Text}
    {options : Options} (clean : ∀ argument ∈ arguments, '\x00' ∉ argument)
    (valued : ¬ AttachesSeparator arguments)
    (parsed : parse environment arguments = .ok options) : options.Usable := by
  obtain ⟨tokens, progress, read, consumed, finished⟩ := parse_eq_ok parsed
  have start : Progress.Usable
      { fallback? := some environment.settings.fallback,
        style := environment.settings.style } := by
    refine ⟨⟨trivial, Option.some_ne_none _⟩, ?_⟩
    intro operand member
    cases member
  have fit := Token.Fit.of_ofTexts read clean valued
  exact usable_of_finish (start.consume fit consumed) finished

theorem Usable.ofNames_job {options : Options} (usable : options.Usable) :
    ∃ fallback : FallbackMode, options.fallback? = some fallback ∧
      Settings.ofNames options.job.fallbackName options.job.styleName =
        .ok ⟨fallback, options.style⟩ := by
  obtain ⟨fallback, given⟩ := Option.ne_none_iff_exists'.mp usable.fallback
  refine ⟨fallback, given, ?_⟩
  unfold job fallbackName
  rw [given]
  exact Settings.ofNames_name ⟨fallback, options.style⟩

end Options
end DocTag
