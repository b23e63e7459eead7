import DocTag.Program
/-!
The command line on a real machine.

This layer reads bytes, writes bytes and prints; what is read, written and
printed is decided by `DocTag.Options`, `DocTag.Job` and `DocTag.Program`.
-/

namespace DocTag
namespace Console

/-- The number of a failure; some calls give it with a minus sign. -/
def failureNumber (code : UInt32) : Nat := min code.toNat (0 - code).toNat

def accessReason : IO.Error → AccessReason
  | .noFileOrDirectory _ _ _ => .missing
  | .inappropriateType _ code _ =>
      if failureNumber code = AccessReason.isDirectory.number then .isDirectory
      else .notDirectory
  | .invalidArgument _ code text =>
      if failureNumber code = AccessReason.nameTooLong.number then .nameTooLong
      else .other (failureNumber code) text.toList
  | .permissionDenied _ _ _ =>
      .other 13 "Permission denied".toList
  | error => .other 5 (toString error).toList

def attempt {result : Type} (path : Path) (action : IO result) :
    IO (Except AccessFault result) := do
  if path.hasNul then return .error .embeddedNul
  try
    return .ok (← action)
  catch error =>
    return .error (.refused (accessReason error) path)

def readFile (path : Path) : IO (Except AccessFault Bytes) :=
  attempt path do
    return (← IO.FS.readBinFile (String.ofList path.toText)).toList

def writeFile (path : Path) (content : Bytes) :
    IO (Except AccessFault Unit) :=
  attempt path
    (IO.FS.writeBinFile (String.ofList path.toText) ⟨content.toArray⟩)

/-- The bytes of a stream up to its end, behind those already read. -/
partial def readToEnd (stream : IO.FS.Stream) (bytes : ByteArray) :
    IO ByteArray := do
  let chunk ← stream.read 65536
  if chunk.isEmpty then return bytes
  readToEnd stream (bytes ++ chunk)

def sources (job : Job) : IO (List (Except AccessFault Bytes)) := do
  match job.inputs with
  | [] => return [.ok (← readToEnd (← IO.getStdin) .empty).toList]
  | inputs => inputs.mapM readFile

def printError (text : Text) : IO Unit := IO.eprint (String.ofList text)

def fail (fault : JobFault) : IO UInt32 := do
  printError fault.complaint
  return fault.status.toUInt32

def place (destination : Destination) (document : Text) :
    IO (Except JobFault Unit) := do
  match destination with
  | .standardOutput =>
      IO.print (String.ofList document)
      return .ok ()
  | .nowhere => return .error .destinationMissing
  | .file path =>
      return (← writeFile path (Utf8.encode document)).mapError .access

def runJob (job : Job) : IO UInt32 := do
  match job.report (← sources job) with
  | .error fault => fail fault
  | .ok report =>
      printError report.warnings
      match ← place job.destination report.document with
      | .error fault => fail fault
      | .ok () =>
          printError report.summary
          return (report.status job.strict).toUInt32

def invocation (arguments : List String) : IO Invocation := do
  let value? (name : String) : IO (Option Text) := do
    return (← IO.getEnv name).map fun value => value.toList
  let environment : Environment :=
    { program? := ← value? Environment.programVariable,
      fallback? := ← value? Environment.fallbackVariable,
      style? := ← value? Environment.styleVariable }
  let invokedAs := (← IO.appPath).toString.toList
  return ⟨arguments.map fun argument => argument.toList, none, invokedAs,
    environment⟩

end Console
end DocTag

def main (arguments : List String) : IO UInt32 := do
  let invocation ← DocTag.Console.invocation arguments
  match invocation.options with
  | .ok options => DocTag.Console.runJob options.job
  | .error stop =>
      IO.print (String.ofList (stop.standardOutput invocation.programName))
      DocTag.Console.printError (stop.standardError invocation.programName)
      return stop.status.toUInt32
