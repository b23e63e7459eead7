import DocTag.CommandLine.Token
import DocTag.Job
import DocTag.Text.Lowercase
/-!
From tokens to options, where the environment sets the defaults.

Options act from left to right, and the first request for help or the version
ends the reading, as does the first misuse.  The inputs are the first
unbroken run of operands; operands of a later run, and arguments that only
look like options, are set aside and refused at the end.

Two dashes are no value.  Attached to an option that takes one, they leave it
without any, whatever it had before.
-/

namespace DocTag

structure Environment where
  program? : Option Text := none
  fallback? : Option Text := none
  style? : Option Text := none
deriving DecidableEq, Repr

namespace Environment

def programVariable : String := "DOXMD_PROG"

def fallbackVariable : String := "DOXMD_FALLBACK"

def styleVariable : String := "DOXMD_REFERENCE_STYLE"

/-- The choice a value makes: the value itself, stripped and in lower case, if
it is among the choices. -/
def choose (choices : List Text) (standard : Text) (value? : Option Text) :
    Text :=
  let value := ((value?.getD []).strip).lowercase
  if choices.contains value then value else standard

def settings (environment : Environment) : Settings :=
  let standard : Settings := {}
  let fallbackName := choose (FallbackMode.all.map FallbackMode.name)
    standard.fallback.name environment.fallback?
  let styleName := choose (ReferenceStyle.all.map ReferenceStyle.name)
    standard.style.name environment.style?
  { fallback := (FallbackMode.ofName? fallbackName).getD standard.fallback,
    style := ReferenceStyle.ofNameD styleName }

def standardProgramName : Text := "doxmd".toList

/-- The name of the program: the first that is not empty of the name given,
the name in the environment, and the last component of the invoked path. -/
def programName (environment : Environment) (given? : Option Text)
    (invokedAs : Text) : Text :=
  let names := [given?.getD [], environment.program?.getD [],
    (Path.ofText invokedAs).name]
  (names.find? fun name => !name.isEmpty).getD standardProgramName

end Environment

/-- What a command line asks for.  There is no fallback when an option left it
without a value. -/
structure Options where
  inputs : List Path
  destination : Destination
  fallback? : Option FallbackMode
  style : ReferenceStyle
  strict : Bool
deriving DecidableEq, Repr

inductive Stop where
  | help
  | version
  | misuse (fault : UsageFault)
deriving DecidableEq, Repr

/-- The run of operands that makes the inputs: not met yet, being read, or
closed by an option. -/
inductive InputRun where
  | ahead
  | reading (operands : List Text)
  | closed (operands : List Text)
deriving DecidableEq, Repr

namespace InputRun

def operands : InputRun → List Text
  | .ahead => []
  | .reading operands => operands
  | .closed operands => operands

def close : InputRun → InputRun
  | .reading operands => .closed operands
  | run => run

end InputRun

structure Progress where
  run : InputRun := .ahead
  destination : Destination := .standardOutput
  fallback? : Option FallbackMode
  style : ReferenceStyle
  strict : Bool := false
  setAside : List Text := []
deriving DecidableEq, Repr

namespace Progress

def close (progress : Progress) : Progress :=
  { progress with run := progress.run.close }

def addOperand (progress : Progress) (text : Text) : Progress :=
  match progress.run with
  | .ahead => { progress with run := .reading [text] }
  | .reading operands => { progress with run := .reading (operands ++ [text]) }
  | .closed _ => { progress with setAside := progress.setAside ++ [text] }

/-- The separator counts as an operand only where operands are set aside. -/
def addSeparator (progress : Progress) : Progress :=
  match progress.run with
  | .ahead => { progress with run := .reading [] }
  | .reading _ => progress
  | .closed _ =>
      { progress with setAside := progress.setAside ++ [Token.separatorText] }

def addUnknown (progress : Progress) (text : Text) : Progress :=
  { progress.close with setAside := progress.setAside ++ [text] }

def perform (progress : Progress) (switch : Switch) (value : Text) :
    Except Stop Progress :=
  match switch with
  | .help => .error .help
  | .version => .error .version
  | .output =>
      let destination := if value = Token.separatorText then .nowhere
        else .file (Path.ofText value)
      .ok { progress with destination }
  | .fallback =>
      if value = Token.separatorText then .ok { progress with fallback? := none }
      else
        match FallbackMode.ofName? value with
        | some mode => .ok { progress with fallback? := some mode }
        | none =>
            .error (.misuse (.valueUnknown .fallback value
              (FallbackMode.all.map FallbackMode.name)))
  | .intraDocLinks => .ok { progress with style := .intraDoc }
  | .strict => .ok { progress with strict := true }

end Progress

/-- The options in one argument: those that take no value, and the last one,
perhaps with its value. -/
structure Cluster where
  before : List Switch
  last : Switch
  value? : Option Text
deriving DecidableEq, Repr

namespace Cluster

def single (switch : Switch) : Option Text → Except UsageFault Cluster
  | none => .ok ⟨[], switch, none⟩
  | some value =>
      if switch.takesValue then .ok ⟨[], switch, some value⟩
      else .error (.valueRefused switch value)

/-- Reads what is attached to the letter of an option.  It is the value of an
option that takes one; attached to any other it spells further letters, and
the first letter of no option is refused with all that follows. -/
def ofLetters (switch : Switch) : Text → Except UsageFault Cluster
  | [] => single switch none
  | letter :: rest =>
      if switch.takesValue then single switch (some (letter :: rest))
      else
        match Switch.ofLetter? letter with
        | none => .error (.valueRefused switch (letter :: rest))
        | some next =>
            (ofLetters next rest).map fun cluster =>
              { cluster with before := switch :: cluster.before }

def ofToken? : Token → Option (Except UsageFault Cluster)
  | .short switch (some (letter :: rest)) =>
      some (ofLetters switch (letter :: rest))
  | .short switch attached? => some (single switch attached?)
  | .long switch value? => some (single switch value?)
  | .operand _ | .separator | .unknown _ => none

def needs? (cluster : Cluster) : Option Switch :=
  if cluster.last.takesValue && cluster.value?.isNone then some cluster.last
  else none

def perform (cluster : Cluster) (operand : Text) (progress : Progress) :
    Except Stop Progress := do
  let after ← cluster.before.foldlM (fun progress switch =>
    progress.perform switch []) progress
  after.perform cluster.last (cluster.value?.getD operand)

end Cluster

namespace Progress

def addToken (progress : Progress) : Token → Progress
  | .operand text => progress.addOperand text
  | .separator => progress.addSeparator
  | .unknown text => progress.addUnknown text
  | .short _ _ | .long _ _ => progress

def consume (progress : Progress) : List Token → Except Stop Progress
  | [] => .ok progress
  | token :: tokens =>
      match Cluster.ofToken? token with
      | none => (progress.addToken token).consume tokens
      | some (.error fault) => .error (.misuse fault)
      | some (.ok cluster) =>
          match cluster.needs? with
          | none => do
              let after ← cluster.perform [] progress.close
              after.consume tokens
          | some switch =>
              match tokens with
              | .operand value :: rest => do
                  let after ← cluster.perform value progress.close
                  after.consume rest
              | _ => .error (.misuse (.valueMissing switch))

def finish (progress : Progress) : Except Stop Options :=
  match progress.setAside with
  | [] =>
      .ok ⟨progress.run.operands.map Path.ofText, progress.destination,
        progress.fallback?, progress.style, progress.strict⟩
  | arguments => .error (.misuse (.unrecognized arguments))

end Progress

namespace Options

def parse (environment : Environment) (arguments : List Text) :
    Except Stop Options := do
  let tokens ← (Token.ofTexts arguments).mapError Stop.misuse
  let settings := environment.settings
  let start : Progress :=
    { fallback? := some settings.fallback, style := settings.style }
  let progress ← start.consume tokens
  progress.finish

/-- What is shown in place of a value that an option was left without. -/
def noValue : Text := "[]".toList

def outputText? (options : Options) : Option Text :=
  match options.destination with
  | .standardOutput => none
  | .file path => some path.toText
  | .nowhere => some noValue

def fallbackName (options : Options) : Text :=
  options.fallback?.elim noValue FallbackMode.name

def job (options : Options) : Job :=
  { inputs := options.inputs,
    destination := options.destination,
    fallbackName := options.fallbackName,
    styleName := options.style.name,
    strict := options.strict }

end Options

end DocTag
