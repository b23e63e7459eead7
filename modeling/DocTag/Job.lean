import DocTag.Batch
import DocTag.Storage
/-!
Jobs: files in, one document out.

A job reads every input before it looks at its modes, converts every comment
before it writes, and writes before it counts the failures.  So a job that
cannot be finished changes no file and prints no document.
-/

namespace DocTag

/-- Where a document goes.  A destination that was named and taken back is
nowhere, and nothing can be written there. -/
inductive Destination where
  | standardOutput
  | file (path : Path)
  | nowhere
deriving DecidableEq, Repr

/-- What is to be converted, where the document goes, and how.  Without an
input, standard input is read.  The modes are given by name. -/
structure Job where
  inputs : List Path
  destination : Destination
  fallbackName : Text
  styleName : Text
  strict : Bool
deriving DecidableEq, Repr

structure Surroundings where
  files : FileSystem
  standardInput : Bytes
deriving DecidableEq, Repr

inductive JobFault where
  | access (fault : AccessFault)
  | encoding (fault : Utf8.Fault)
  | setting (fault : SettingFault)
  | destinationMissing
deriving DecidableEq, Repr

def JobFault.message : JobFault → Text
  | .access fault => fault.message
  | .encoding fault => fault.message
  | .setting fault => fault.message
  | .destinationMissing =>
      "'list' object has no attribute 'write_text'".toList

structure JobOutcome where
  status : Except JobFault Nat
  standardOutput : Text
  standardError : Text
  files : FileSystem

def commentOfSource : Except AccessFault Bytes → Except JobFault Text
  | .error fault => .error (.access fault)
  | .ok bytes =>
      match Utf8.decode bytes with
      | .error fault => .error (.encoding fault)
      | .ok text => .ok text.unifyNewlines

namespace Job

def sources (job : Job) (surroundings : Surroundings) :
    List (Except AccessFault Bytes) :=
  match job.inputs with
  | [] => [.ok surroundings.standardInput]
  | inputs => inputs.map surroundings.files.read

def report (job : Job) (sources : List (Except AccessFault Bytes)) :
    Except JobFault Report := do
  let comments ← sources.mapM commentOfSource
  (Report.ofCommentsNamed job.fallbackName job.styleName comments).mapError
    .setting

def deliver (job : Job) (files : FileSystem) (report : Report) : JobOutcome :=
  let status := report.status job.strict
  let messages := report.warnings ++ report.summary
  match job.destination with
  | .standardOutput => ⟨.ok status, report.document, messages, files⟩
  | .nowhere => ⟨.error .destinationMissing, [], report.warnings, files⟩
  | .file path =>
      match files.write path (Utf8.encode report.document) with
      | .ok written => ⟨.ok status, [], messages, written⟩
      | .error fault => ⟨.error (.access fault), [], report.warnings, files⟩

def run (job : Job) (surroundings : Surroundings) : JobOutcome :=
  match job.report (job.sources surroundings) with
  | .ok report => job.deliver surroundings.files report
  | .error fault => ⟨.error fault, [], [], surroundings.files⟩

end Job
end DocTag
