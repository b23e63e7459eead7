import DocTag.Conversion
import DocTag.Text.Quoted
/-!
The steps of a session as data, and what each of them answers.

Reading steps touch the cursor alone, writing steps the output alone; a
dispatch and a rule touch both.
-/

namespace DocTag

inductive CharClass where
  | oneOf (members : List Char)
  | noneOf (members : List Char)
deriving DecidableEq, Repr

def CharClass.holds : CharClass → Char → Bool
  | .oneOf members, character => members.contains character
  | .noneOf members, character => !members.contains character

inductive Step where
  | peek
  | advance
  | exhausted
  | takeWhile (chars : CharClass)
  | skipWhile (chars : CharClass)
  /-- Reads up to so many characters, or all that are left. -/
  | take (limit? : Option Nat)
  | readWord
  | readAttributes
  | skipBlanks
  | emit (fragment : Text)
  | ensureHeading (heading : Text)
  | hasHeading (heading : Text)
  | render
  | dispatch (introducer : Text) (style : ReferenceStyle)
  /-- Applies the rule of a name, or the rule for names without one. -/
  | rule (name? : Option Text) (mention : Mention) (style : ReferenceStyle)
deriving DecidableEq, Repr

inductive Reply where
  | nothing
  | character (read? : Option Char)
  | characters (read : List Char)
  | text (read : Text)
  | flag (holds : Bool)
deriving DecidableEq, Repr

inductive StepFault where
  | attributes (fault : AttributeFault)
  | unknownRule (name : Text)
deriving DecidableEq, Repr

def StepFault.message : StepFault → Text
  | .attributes fault => fault.message
  | .unknownRule name => name.quoted

namespace Session

def moved {result : Type} (session : Session)
    (reading : result × Cursor) : result × Session :=
  (reading.1, { session with cursor := reading.2 })

def performed (reply : Reply)
    (outcome : Except AttributeFault Unit × Session) :
    Except StepFault Reply × Session :=
  match outcome with
  | (.ok (), after) => (.ok reply, after)
  | (.error fault, after) => (.error (.attributes fault), after)

def perform (session : Session) : Step → Except StepFault Reply × Session
  | .peek => (.ok (.character session.cursor.peek?), session)
  | .advance =>
      let (read?, after) := session.moved session.cursor.advance
      (.ok (.character read?), after)
  | .exhausted => (.ok (.flag session.cursor.atEnd), session)
  | .takeWhile chars =>
      let (read, after) := session.moved (session.cursor.takeWhile chars.holds)
      (.ok (.text read), after)
  | .skipWhile chars =>
      (.ok .nothing,
        { session with cursor := session.cursor.skipWhile chars.holds })
  | .take limit? =>
      let limit := limit?.getD session.cursor.ahead.length
      let (read, after) := session.moved (session.cursor.take limit)
      (.ok (.characters read), after)
  | .readWord =>
      let (read, after) := session.moved session.cursor.readWord
      (.ok (.text read), after)
  | .readAttributes =>
      match session.moved session.cursor.readAttributes with
      | (.ok read, after) => (.ok (.text read), after)
      | (.error fault, after) => (.error (.attributes fault), after)
  | .skipBlanks =>
      (.ok .nothing, { session with cursor := session.cursor.skipBlanks })
  | .emit fragment =>
      (.ok .nothing, { session with output := session.output.emit fragment })
  | .ensureHeading heading =>
      (.ok .nothing,
        { session with output := session.output.ensureHeading heading })
  | .hasHeading heading =>
      (.ok (.flag (session.output.hasHeading heading)), session)
  | .render => (.ok (.text session.output.render), session)
  | .dispatch introducer style =>
      performed .nothing (session.dispatch introducer style)
  | .rule none mention style =>
      performed .nothing (session.applyRule .verbatim mention style)
  | .rule (some name) mention style =>
      match Rule.ofName? name with
      | some rule => performed .nothing (session.applyRule rule mention style)
      | none => (.error (.unknownRule name), session)

/-- The outcome of each step, with the session after it.  A failed step does
not end the session. -/
def trace (session : Session) :
    List Step → List (Except StepFault Reply × Session)
  | [] => []
  | step :: steps =>
      let result := session.perform step
      result :: result.2.trace steps

end Session
end DocTag
