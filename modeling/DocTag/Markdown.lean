import DocTag.Text.Basic
/-!
The Markdown of a comment: how it refers to other entities, and how it grows.

A target that holds a scheme mark is a link to itself in either style of
references.

The output is a list of fragments, and which sections were opened in it is
read off the fragments themselves: a heading is there when some fragment,
stripped of white space, equals it.  The heading asked for is compared as it
stands, so one that is not its own strip is never found.
-/

namespace DocTag

inductive ReferenceStyle where
  | code
  | intraDoc
deriving DecidableEq, Repr

namespace ReferenceStyle

def all : List ReferenceStyle := [.code, .intraDoc]

def name : ReferenceStyle → Text
  | .code => "code".toList
  | .intraDoc => "intra-doc".toList

def ofName? (name : Text) : Option ReferenceStyle :=
  all.find? fun style => style.name = name

/-- The style of a name, inline code for an unknown one. -/
def ofNameD (name : Text) : ReferenceStyle := (ofName? name).getD .code

def schemeMark : Text := "://".toList

def reference (style : ReferenceStyle) (target : Text) : Text :=
  if Text.hasPart schemeMark target then
    "[".toList ++ target ++ "](".toList ++ target ++ ")".toList
  else
    match style with
    | .code => "`".toList ++ target ++ "`".toList
    | .intraDoc => "[`".toList ++ target ++ "`]".toList

theorem ofName?_name (style : ReferenceStyle) :
    ofName? style.name = some style :=
  Text.find?_named (by decide) (by cases style <;> decide)

theorem ofName?_eq_none_iff {name : Text} :
    ofName? name = none ↔ name ∉ all.map ReferenceStyle.name :=
  Text.find?_named_eq_none_iff

end ReferenceStyle

inductive Section where
  | arguments
  | returns
  | seeAlso
deriving DecidableEq, Repr

namespace Section

def all : List Section := [.arguments, .returns, .seeAlso]

def heading : Section → Text
  | .arguments => "# Arguments".toList
  | .returns => "# Returns".toList
  | .seeAlso => "# See also".toList

/-- A heading has no white space to lose, so it can be found again. -/
theorem strip_heading (opened : Section) :
    Text.strip opened.heading = opened.heading := by
  cases opened <;> decide

end Section

/-- The fragments emitted so far, the latest first. -/
structure Output where
  latestFirst : List Text := []
deriving DecidableEq, Repr

namespace Output

def fragments (output : Output) : List Text := output.latestFirst.reverse

def emit (output : Output) (fragment : Text) : Output :=
  ⟨fragment :: output.latestFirst⟩

def headingSeparator : Text := "\n\n".toList

def hasHeading (output : Output) (heading : Text) : Bool :=
  output.fragments.any fun fragment => fragment.strip = heading

/-- Emits the heading and a blank line unless the heading is there. -/
def ensureHeading (output : Output) (heading : Text) : Output :=
  if output.hasHeading heading then output
  else (output.emit heading).emit headingSeparator

def openSection (output : Output) (opened : Section) : Output :=
  output.ensureHeading opened.heading

def render (output : Output) : Text := output.fragments.flatten

@[simp] theorem fragments_emit (output : Output) (fragment : Text) :
    (output.emit fragment).fragments = output.fragments ++ [fragment] := by
  simp [emit, fragments]

@[simp] theorem render_emit (output : Output) (fragment : Text) :
    (output.emit fragment).render = output.render ++ fragment := by
  simp [render]

end Output

end DocTag
