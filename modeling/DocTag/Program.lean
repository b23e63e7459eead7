import DocTag.CommandLine.Help
import DocTag.CommandLine.Options
/-!
The program as a function: an invocation and its surroundings give what is
printed, the files afterwards, and the exit status.

A command line that asks for help or the version, or that cannot be used, ends
the program before anything is read.  Otherwise the job runs; a file that the
file system refuses to read or write gives status 2, any other fault status 1.
-/

namespace DocTag

structure Invocation where
  arguments : List Text
  /-- The program name, when the caller sets one. -/
  name? : Option Text
  /-- The path by which the program was invoked. -/
  invokedAs : Text
  environment : Environment
deriving DecidableEq, Repr

/-- How a program ends: it leaves while it reads its command line, or its job
returns. -/
inductive Ending where
  | left (status : Nat)
  | returned (status : Nat)
deriving DecidableEq, Repr

structure Outcome where
  ending : Ending
  standardOutput : Text
  standardError : Text
  files : FileSystem
deriving DecidableEq, Repr

namespace Stop

def status : Stop → Nat
  | .help | .version => 0
  | .misuse _ => 2

def standardOutput (program : Text) : Stop → Text
  | .help => Help.help program
  | .version => Help.versionLine program
  | .misuse _ => []

def standardError (program : Text) : Stop → Text
  | .help | .version => []
  | .misuse fault => Help.complaint program fault

end Stop

namespace JobFault

def status : JobFault → Nat
  | .access (.refused _ _) => 2
  | .access .embeddedNul | .encoding _ | .setting _ | .destinationMissing => 1

def complaint (fault : JobFault) : Text :=
  "error: ".toList ++ fault.message ++ ['\n']

end JobFault

namespace JobOutcome

def exitStatus (outcome : JobOutcome) : Nat :=
  match outcome.status with
  | .ok status => status
  | .error fault => fault.status

def messages (outcome : JobOutcome) : Text :=
  match outcome.status with
  | .ok _ => outcome.standardError
  | .error fault => outcome.standardError ++ fault.complaint

end JobOutcome

namespace Invocation

def programName (invocation : Invocation) : Text :=
  invocation.environment.programName invocation.name? invocation.invokedAs

def options (invocation : Invocation) : Except Stop Options :=
  Options.parse invocation.environment invocation.arguments

def run (invocation : Invocation) (surroundings : Surroundings) : Outcome :=
  match invocation.options with
  | .error stop =>
      ⟨.left stop.status, stop.standardOutput invocation.programName,
        stop.standardError invocation.programName, surroundings.files⟩
  | .ok options =>
      let outcome := options.job.run surroundings
      ⟨.returned outcome.exitStatus, outcome.standardOutput, outcome.messages,
        outcome.files⟩

end Invocation
end DocTag
