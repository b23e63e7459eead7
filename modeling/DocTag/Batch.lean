import DocTag.Conversion
/-!
Batches of comments, and the two modes in which they are converted.

A comment that cannot be converted never stops the batch: it is dropped or
kept as it stands, and reported in a warning of its own.  Modes given by name
are looked at when there is a comment to convert.  Of two unknown names the
fallback is reported.
-/

namespace DocTag

inductive FallbackMode where
  | drop
  | keep
deriving DecidableEq, Repr

namespace FallbackMode

def all : List FallbackMode := [.drop, .keep]

def name : FallbackMode → Text
  | .drop => "drop".toList
  | .keep => "keep".toList

def ofName? (name : Text) : Option FallbackMode :=
  all.find? fun mode => mode.name = name

theorem ofName?_name (mode : FallbackMode) : ofName? mode.name = some mode :=
  Text.find?_named (by decide) (by cases mode <;> decide)

theorem ofName?_eq_none_iff {name : Text} :
    ofName? name = none ↔ name ∉ all.map FallbackMode.name :=
  Text.find?_named_eq_none_iff

end FallbackMode

structure Settings where
  fallback : FallbackMode := .drop
  style : ReferenceStyle := .code
deriving DecidableEq, Repr

inductive SettingFault where
  | unknownFallback (name : Text)
  | unknownStyle (name : Text)
deriving DecidableEq, Repr

def SettingFault.message : SettingFault → Text
  | .unknownFallback name => "Unknown fallback mode: ".toList ++ name
  | .unknownStyle name => "Unknown reference style: ".toList ++ name

def ReferenceStyle.ofName (name : Text) :
    Except SettingFault ReferenceStyle :=
  match ofName? name with
  | some style => .ok style
  | none => .error (.unknownStyle name)

def FallbackMode.ofName (name : Text) : Except SettingFault FallbackMode :=
  match ofName? name with
  | some mode => .ok mode
  | none => .error (.unknownFallback name)

def Settings.ofNames (fallbackName styleName : Text) :
    Except SettingFault Settings := do
  let fallback ← FallbackMode.ofName fallbackName
  let style ← ReferenceStyle.ofName styleName
  return { fallback, style }

namespace Settings

theorem ofNames_name (settings : Settings) :
    ofNames settings.fallback.name settings.style.name = .ok settings := by
  unfold ofNames FallbackMode.ofName ReferenceStyle.ofName
  rw [FallbackMode.ofName?_name, ReferenceStyle.ofName?_name]
  rfl

/-- Of two names that stand for no mode, the fallback is reported. -/
theorem ofNames_eq_error_iff {fallbackName styleName : Text}
    {fault : SettingFault} :
    ofNames fallbackName styleName = .error fault ↔
      fallbackName ∉ FallbackMode.all.map FallbackMode.name ∧
          fault = .unknownFallback fallbackName ∨
        fallbackName ∈ FallbackMode.all.map FallbackMode.name ∧
          styleName ∉ ReferenceStyle.all.map ReferenceStyle.name ∧
            fault = .unknownStyle styleName := by
  rw [← ReferenceStyle.ofName?_eq_none_iff]
  unfold ofNames FallbackMode.ofName ReferenceStyle.ofName
  cases found : FallbackMode.ofName? fallbackName with
  | none =>
      have unknown := FallbackMode.ofName?_eq_none_iff.mp found
      simp [unknown, bind, Except.bind, eq_comm]
  | some mode =>
      have known : fallbackName ∈ FallbackMode.all.map FallbackMode.name := by
        rw [← Text.name_of_find?_named found]
        exact List.mem_map_of_mem (List.mem_of_find?_eq_some found)
      cases ReferenceStyle.ofName? styleName <;>
        simp [known, bind, Except.bind, pure, Except.pure, eq_comm]

end Settings

/-- A comment with its Markdown, or with what broke it. -/
structure Attempt where
  comment : Text
  outcome : Except AttributeFault Text

namespace Attempt

def ofComment (style : ReferenceStyle) (comment : Text) : Attempt :=
  ⟨comment, convert style comment⟩

def failed (attempt : Attempt) : Bool :=
  match attempt.outcome with
  | .ok _ => false
  | .error _ => true

def result? (attempt : Attempt) (fallback : FallbackMode) : Option Text :=
  match attempt.outcome, fallback with
  | .ok markdown, _ => some markdown
  | .error _, .keep => some attempt.comment
  | .error _, .drop => none

def warning (attempt : Attempt) : Text :=
  match attempt.outcome with
  | .ok _ => []
  | .error fault =>
      "warning: Problem processing doxygen comment: ".toList ++
        attempt.comment ++ "\n".toList ++ fault.message ++ "\n".toList

end Attempt

def Settings.result? (settings : Settings) (comment : Text) : Option Text :=
  (Attempt.ofComment settings.style comment).result? settings.fallback

structure Report where
  fallback : FallbackMode
  attempts : List Attempt

namespace Report

def ofComments (settings : Settings) (comments : List Text) : Report :=
  ⟨settings.fallback, comments.map (Attempt.ofComment settings.style)⟩

def ofCommentsNamed (fallbackName styleName : Text) :
    List Text → Except SettingFault Report
  | [] => .ok ⟨.drop, []⟩
  | comments => (Settings.ofNames fallbackName styleName).map fun settings =>
      ofComments settings comments

def results (report : Report) : List (Option Text) :=
  report.attempts.map fun attempt => attempt.result? report.fallback

def failures (report : Report) : Nat := report.attempts.countP Attempt.failed

def total (report : Report) : Nat := report.attempts.length

def warnings (report : Report) : Text :=
  report.attempts.flatMap Attempt.warning

/-- The text with a line feed behind it, unless it is empty or ends in one. -/
def closeLine (text : Text) : Text :=
  if text.isEmpty || text.getLast? = some '\n' then text
  else text ++ ['\n']

def document (report : Report) : Text :=
  closeLine (Text.join ['\n'] (report.results.filterMap id))

def summary (report : Report) : Text :=
  if report.failures = 0 then []
  else Text.decimal report.failures ++ "/".toList ++
    Text.decimal report.total ++ " comments could not be converted\n".toList

def status (report : Report) (strict : Bool) : Nat :=
  if strict && report.failures ≠ 0 then 1 else 0

end Report

end DocTag
