import DocTag.Program
import DocTag.Proofs.Choices
/-!
Options written back as arguments.

Whatever a command line was read as can be spelled in one fixed way, with the
value of each option joined to its name and all operands behind the separator.
Paths come back because their texts are in normal form.  The style can be
written as far as a flag sets it: where no flag was given, it is that of the
environment, and so it is again.
-/

namespace DocTag

namespace Path

/-- Each component leads somewhere, and to one place only. -/
def IsNormal (path : Path) : Prop :=
  ∀ component ∈ path.components, isStep component = true ∧ '/' ∉ component

private theorem splitSlashes_of_not_mem {text : Text} (whole : '/' ∉ text) :
    splitSlashes text = [text] := by
  induction text with
  | nil => rfl
  | cons character text ih =>
      have other : character ≠ '/' := (List.ne_of_not_mem_cons whole).symm
      rw [splitSlashes, ih (List.not_mem_of_not_mem_cons whole)]
      exact other

private theorem splitSlashes_append {piece : Text} (whole : '/' ∉ piece)
    (text : Text) :
    splitSlashes (piece ++ '/' :: text) = piece :: splitSlashes text := by
  induction piece with
  | nil => rfl
  | cons character piece ih =>
      have other : character ≠ '/' := (List.ne_of_not_mem_cons whole).symm
      rw [List.cons_append, splitSlashes,
        ih (List.not_mem_of_not_mem_cons whole)]
      exact other

private theorem not_mem_of_mem_splitSlashes {text piece : Text}
    (member : piece ∈ splitSlashes text) : '/' ∉ piece := by
  fun_induction splitSlashes text generalizing piece with
  | case1 =>
      obtain rfl := List.mem_singleton.mp member
      exact List.not_mem_nil
  | case2 rest ih =>
      rcases List.mem_cons.mp member with rfl | later
      · exact List.not_mem_nil
      · exact ih later
  | case3 character rest other empty ih =>
      obtain rfl := List.mem_singleton.mp member
      rw [List.mem_singleton]
      exact fun same => other same.symm
  | case4 character rest other front pieces split ih =>
      rw [split] at ih
      rcases List.mem_cons.mp member with rfl | later
      · rw [List.mem_cons, not_or]
        exact ⟨fun same => other same.symm, ih List.mem_cons_self⟩
      · exact ih (List.mem_cons_of_mem _ later)

theorem isNormal_ofText (text : Text) : (ofText text).IsNormal := by
  intro component member
  obtain ⟨piece, step⟩ := List.mem_filter.mp member
  exact ⟨step, not_mem_of_mem_splitSlashes piece⟩

theorem splitSlashes_join {pieces : List Text} (nonempty : pieces ≠ [])
    (whole : ∀ piece ∈ pieces, '/' ∉ piece) :
    splitSlashes (Text.join ['/'] pieces) = pieces := by
  induction pieces with
  | nil => exact absurd rfl nonempty
  | cons piece pieces ih =>
      obtain ⟨first, rest⟩ := List.forall_mem_cons.mp whole
      cases pieces with
      | nil =>
          change splitSlashes (piece ++ []) = [piece]
          rw [List.append_nil, splitSlashes_of_not_mem first]
      | cons next pieces =>
          change splitSlashes
            (piece ++ '/' :: Text.join ['/'] (next :: pieces)) = _
          rw [splitSlashes_append first, ih (List.cons_ne_nil _ _) rest]

variable {path : Path}

/-- The components of a path are read back from its text, wherever it
starts. -/
private theorem filter_splitSlashes (normal : path.IsNormal) :
    (splitSlashes (Text.join ['/'] path.components)).filter isStep =
      path.components := by
  by_cases none : path.components = []
  · rw [none]
    rfl
  · rw [splitSlashes_join none fun component member =>
      (normal component member).2, List.filter_eq_self]
    exact fun component member => (normal component member).1

/-- No slash of its own stands in front of the components. -/
private theorem takeWhile_join (normal : path.IsNormal) :
    (Text.join ['/'] path.components).takeWhile (· = '/') = [] := by
  obtain ⟨start, components⟩ := path
  cases components with
  | nil => rfl
  | cons component rest =>
      obtain ⟨step, whole⟩ := normal component List.mem_cons_self
      cases component with
      | nil => cases step
      | cons character others =>
          have other : character ≠ '/' := (List.ne_of_not_mem_cons whole).symm
          cases rest <;>
            exact List.takeWhile_cons_of_neg fun same =>
              other (of_decide_eq_true same)

private theorem ofText_append_join (normal : path.IsNormal) :
    ofText (path.start.text ++ Text.join ['/'] path.components) = path := by
  have slashes : path.start.text.all (· = '/') = true := by
    cases path.start <;> rfl
  have front : (path.start.text ++ Text.join ['/'] path.components).takeWhile
      (· = '/') = path.start.text := by
    rw [List.takeWhile_append_of_pos (List.all_eq_true.mp slashes),
      takeWhile_join normal, List.append_nil]
  have start : PathStart.ofSlashes path.start.text.length = path.start := by
    cases path.start <;> rfl
  have steps :
      (splitSlashes (path.start.text ++ Text.join ['/'] path.components)).filter
          isStep = path.components := by
    refine Eq.trans ?_ (filter_splitSlashes normal)
    cases path.start <;> rfl
  unfold ofText
  rw [front, start, steps]

theorem ofText_toText (normal : path.IsNormal) : ofText path.toText = path := by
  unfold toText
  have same := ofText_append_join normal
  split
  · rename_i empty
    rw [empty] at same
    exact same
  · exact same

end Path

/-! ### What options are read -/

/-- What options set that were given no two dashes for a value.  Only a flag
sets another style than the environment. -/
structure CanBeSet (environment : Environment) (place : Destination)
    (mode? : Option FallbackMode) (used : ReferenceStyle) : Prop where
  destination : place = .standardOutput ∨
    ∃ path : Path, path.IsNormal ∧ place = .file path
  fallback : ∃ mode : FallbackMode, mode? = some mode
  style : used = environment.settings.style ∨ used = .intraDoc

structure Options.Stands (environment : Environment) (options : Options) :
    Prop extends
    CanBeSet environment options.destination options.fallback?
      options.style where
  inputs : ∀ path ∈ options.inputs, path.IsNormal

def Progress.Stands (environment : Environment) (progress : Progress) : Prop :=
  CanBeSet environment progress.destination progress.fallback? progress.style

namespace Progress.Stands

variable {environment : Environment} {progress after : Progress}

private theorem addToken (stands : progress.Stands environment)
    (token : Token) : (progress.addToken token).Stands environment := by
  obtain ⟨run, _⟩ := progress
  cases token <;> cases run <;>
    exact ⟨stands.destination, stands.fallback, stands.style⟩

theorem perform (stands : progress.Stands environment) {switch : Switch}
    {value : Text} (valued : value ≠ Token.separatorText)
    (acted : progress.perform switch value = .ok after) :
    after.Stands environment := by
  cases switch with
  | help => cases acted
  | version => cases acted
  | strict =>
      cases acted
      exact ⟨stands.destination, stands.fallback, stands.style⟩
  | intraDocLinks =>
      cases acted
      exact ⟨stands.destination, stands.fallback, .inr rfl⟩
  | output =>
      simp only [Progress.perform, if_neg valued] at acted
      cases acted
      exact ⟨.inr ⟨_, Path.isNormal_ofText value, rfl⟩, stands.fallback,
        stands.style⟩
  | fallback =>
      simp only [Progress.perform, if_neg valued] at acted
      cases named : FallbackMode.ofName? value with
      | none =>
          rw [named] at acted
          cases acted
      | some mode =>
          rw [named] at acted
          cases acted
          exact ⟨stands.destination, ⟨mode, rfl⟩, stands.style⟩

theorem kept (environment : Environment) :
    Kept (fun _ => True) (Progress.Stands environment) where
  suffix := fun _ _ => trivial
  empty := trivial
  close := fun stands => ⟨stands.destination, stands.fallback, stands.style⟩
  addToken := fun stands _ => stands.addToken _
  perform := fun stands _ valued acted => stands.perform valued acted

end Progress.Stands

namespace Options

variable {environment : Environment} {options : Options}

theorem stands_of_parse {arguments : List Text}
    (unattached : ¬ AttachesSeparator arguments)
    (parsed : parse environment arguments = .ok options) :
    options.Stands environment := by
  obtain ⟨tokens, progress, read, consumed, finished⟩ := parse_eq_ok parsed
  have start : Progress.Stands environment
      { fallback? := some environment.settings.fallback,
        style := environment.settings.style } :=
    ⟨.inl rfl, ⟨_, rfl⟩, .inl rfl⟩
  have valued := Token.Valued.of_ofTexts read unattached
  have stands := (Progress.Stands.kept environment).consume start valued
    (fun _ _ _ _ => trivial) consumed
  rw [Progress.finish_eq_ok finished]
  refine ⟨stands, ?_⟩
  intro path member
  obtain ⟨operand, -, rfl⟩ := List.mem_map.mp member
  exact Path.isNormal_ofText operand

/-! ### Writing options -/

def arguments (options : Options) : List Text :=
  (options.outputText?.toList.map fun output => "--output=".toList ++ output) ++
    ["--fallback=".toList ++ options.fallbackName] ++
    (if options.style = .intraDoc then ["--intra-doc-links".toList] else []) ++
    (if options.strict then ["--strict".toList] else []) ++
    Token.separatorText :: options.inputs.map Path.toText

def choices (options : Options) : List Choice :=
  options.outputText?.toList.map Choice.output ++
    options.fallback?.toList.map Choice.fallback ++
    (if options.style = .intraDoc then [.intraDocLinks] else []) ++
    (if options.strict then [.strict] else [])

end Options

def Choice.argument (choice : Choice) : Text :=
  choice.switch.long ++ choice.value?.elim [] fun value => '=' :: value

private theorem Choice.spelled_argument {choice : Choice}
    (valued : choice.value? ≠ some Token.separatorText) :
    choice.Spelled [choice.argument] := by
  have named := choice.switch.isNamed_long
  unfold argument
  cases given : choice.value? with
  | none =>
      rw [Option.elim_none, List.append_nil]
      exact .flag given named
  | some value =>
      rw [given] at valued
      exact .joined given named fun dashes => valued (congrArg some dashes)

private theorem actAs_arguments {choices : List Choice}
    (valued : ∀ choice ∈ choices, choice.value? ≠ some Token.separatorText) :
    ActAs (choices.map Choice.argument) fun progress =>
      progress.chooseAll choices := by
  have acts := actAs_flatMap (fun choice => [Choice.argument choice]) id
    fun choice member => Choice.spelled_argument (valued choice member)
  rw [List.map_id, ← List.map_eq_flatMap] at acts
  exact acts

namespace Options

variable {environment : Environment} {options : Options}

private theorem arguments_eq {mode : FallbackMode}
    (given : options.fallback? = some mode) :
    options.arguments =
      options.choices.map Choice.argument ++
        Token.separatorText :: options.inputs.map Path.toText := by
  unfold arguments choices fallbackName
  rw [given]
  simp only [List.map_append, List.map_map, Option.elim_some, Option.toList_some]
  congr 2
  · congr 1
    split <;> rfl
  · split <;> rfl

private theorem valued_of_mem_choices
    (named : options.outputText? ≠ some Token.separatorText) :
    ∀ choice ∈ options.choices, choice.value? ≠ some Token.separatorText := by
  intro choice member
  cases choice with
  | output value =>
      have written : options.outputText? = some value := by
        simpa [choices] using member
      change some value ≠ _
      rw [← written]
      exact named
  | fallback mode => cases mode <;> decide
  | intraDocLinks => exact fun same => by cases same
  | strict => exact fun same => by cases same

private theorem lastOutput?_choices (options : Options) :
    Choice.lastOutput? options.choices = options.outputText? := by
  unfold Choice.lastOutput? choices
  cases options.outputText? <;> cases options.fallback? <;>
    cases options.style <;> cases options.strict <;> rfl

private theorem lastFallback?_choices (options : Options) :
    Choice.lastFallback? options.choices = options.fallback? := by
  unfold Choice.lastFallback? choices
  cases options.outputText? <;> cases options.fallback? <;>
    cases options.style <;> cases options.strict <;> rfl

private theorem intraDocLinks_mem_choices_iff :
    .intraDocLinks ∈ options.choices ↔ options.style = .intraDoc := by
  simp [choices]

private theorem strict_mem_choices_iff :
    .strict ∈ options.choices ↔ options.strict = true := by
  simp [choices]

/-- The choices set everything but the inputs. -/
private theorem after_choices (stands : options.Stands environment) :
    { (standard environment).after options.choices with
      inputs := options.inputs } = options := by
  have destination : (options.outputText?.elim .standardOutput
      fun value => .file (Path.ofText value)) = options.destination := by
    unfold outputText?
    rcases stands.destination with printed | ⟨path, normal, placed⟩
    · rw [printed]
      rfl
    · rw [placed]
      exact congrArg Destination.file (Path.ofText_toText normal)
  have fallback : options.fallback?.or (some environment.settings.fallback) =
      options.fallback? := by
    obtain ⟨mode, given⟩ := stands.fallback
    rw [given]
    rfl
  have style : (if options.style = .intraDoc then .intraDoc
      else environment.settings.style) = options.style := by
    split
    · rename_i flagged
      exact flagged.symm
    · rename_i unflagged
      exact (stands.style.resolve_right unflagged).symm
  simp only [after, standard, lastOutput?_choices, lastFallback?_choices,
    intraDocLinks_mem_choices_iff, strict_mem_choices_iff, destination, fallback,
    style, Bool.or_false, Bool.decide_eq_true]

private theorem ofText_inputs (stands : options.Stands environment) :
    (options.inputs.map Path.toText).map Path.ofText = options.inputs := by
  have back : ∀ path ∈ options.inputs, Path.ofText path.toText = path :=
    fun path member => Path.ofText_toText (stands.inputs path member)
  rw [List.map_map]
  exact (List.map_congr_left back).trans (List.map_id' _)

private theorem parse_separator {front operands : List Text}
    {choices : List Choice}
    (acts : ActAs front fun progress => progress.chooseAll choices) :
    parse environment (front ++ Token.separatorText :: operands) =
      .ok { (standard environment).after choices with
        inputs := operands.map Path.ofText } := by
  obtain ⟨tokens, read, acted⟩ := acts
  have readAll : Token.ofTexts (front ++ Token.separatorText :: operands) =
      .ok (tokens ++ .separator :: operands.map .operand) := by
    rw [read, Token.ofTexts, if_pos rfl]
    rfl
  rw [parse_of_tokens readAll, acted,
    Progress.finish_separated (Progress.chooseAll_ahead rfl choices),
    Progress.finish_chooseAll]
  rfl

theorem parse_arguments (stands : options.Stands environment)
    (named : options.outputText? ≠ some Token.separatorText) :
    parse environment options.arguments = .ok options := by
  obtain ⟨mode, given⟩ := stands.fallback
  have acts := actAs_arguments (valued_of_mem_choices named)
  rw [arguments_eq given, parse_separator acts, ofText_inputs stands,
    after_choices stands]

end Options

/-- Options that a command line was read as can be written back: their arguments
are read as the same options, under the same environment.  Two dashes attached
to an option are no value, and cannot be written. -/
theorem options_written_back {invocation : Invocation} {options : Options}
    (parsed : invocation.options = .ok options)
    (unattached : ¬ AttachesSeparator invocation.arguments)
    (named : options.outputText? ≠ some Token.separatorText) :
    ({ invocation with arguments := options.arguments } : Invocation).options =
      .ok options :=
  Options.parse_arguments (Options.stands_of_parse unattached parsed) named

/-- Behind the separator, dashes are written and read as operands. -/
theorem options_written_back_dashes :
    let invocation : Invocation :=
      ⟨["-o=-x=y".toList, "--fall".toList, "keep".toList, "--".toList,
        "--".toList, "-//a b/.".toList], none, "doxmd".toList, {}⟩
    let options : Options :=
      ⟨[⟨.working, ["--".toList]⟩, ⟨.working, ["-".toList, "a b".toList]⟩],
        .file ⟨.working, ["-x=y".toList]⟩, some .keep, .code, false⟩
    let written : List Text :=
      ["--output=-x=y".toList, "--fallback=keep".toList, "--".toList,
        "--".toList, "-/a b".toList]
    invocation.options = .ok options ∧
      ({ invocation with arguments := written } : Invocation).options =
        .ok options := by
  intro invocation options written
  have parsed : invocation.options = .ok options := by decide +kernel
  have unattached : ¬ AttachesSeparator invocation.arguments := by
    rintro ⟨tokens, token, cluster, read, member, spelled, dashes⟩
    have known : Token.ofTexts invocation.arguments =
        .ok [.short .output (some "-x=y".toList), .long .fallback none,
          .operand "keep".toList, .separator, .operand "--".toList,
          .operand "-//a b/.".toList] := by
      decide +kernel
    rw [known] at read
    cases read
    simp only [List.mem_cons, List.not_mem_nil, or_false] at member
    rcases member with rfl | rfl | rfl | rfl | rfl | rfl <;> cases spelled <;>
      cases dashes
  have named : options.outputText? ≠ some Token.separatorText := by decide
  exact ⟨parsed, options_written_back parsed unattached named⟩

end DocTag
