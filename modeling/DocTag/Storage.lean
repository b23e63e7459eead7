import DocTag.Text.Quoted
import DocTag.Text.Utf8
/-!
Paths, and a file system of plain files and directories, without links.

In a path in normal form empty components and single dots carry no meaning and
are gone; a double dot stays, because what it leads to depends on the directory
before it.  A path is walked component by component, and each step is taken
from a directory: what is missing or is a file on the way ends the walk, as
does a name that no directory can hold.  A write changes the one file it names
and nothing else.
-/

namespace DocTag

/-- Where a path starts.  Exactly two slashes in front are a root of their
own; any other number of them is the one root. -/
inductive PathStart where
  | working
  | root
  | doubleRoot
deriving DecidableEq, Repr

namespace PathStart

def text : PathStart → Text
  | .working => []
  | .root => ['/']
  | .doubleRoot => ['/', '/']

def ofSlashes : Nat → PathStart
  | 0 => .working
  | 2 => .doubleRoot
  | _ => .root

end PathStart

structure Path where
  start : PathStart
  components : List Text
deriving DecidableEq, Repr

namespace Path

def splitSlashes : Text → List Text
  | [] => [[]]
  | '/' :: rest => [] :: splitSlashes rest
  | character :: rest =>
      match splitSlashes rest with
      | [] => [[character]]
      | piece :: pieces => (character :: piece) :: pieces

def isStep (component : Text) : Bool :=
  !component.isEmpty && component ≠ ['.']

def ofText (text : Text) : Path :=
  ⟨.ofSlashes (text.takeWhile (· = '/')).length,
    (splitSlashes text).filter isStep⟩

def toText (path : Path) : Text :=
  match path.start.text ++ Text.join ['/'] path.components with
  | [] => ['.']
  | text => text

def name (path : Path) : Text := path.components.getLast?.getD []

/-- Whether the character zero, which no name may hold, stands in the path. -/
def hasNul (path : Path) : Bool :=
  path.components.any fun component => component.contains '\x00'

private theorem mem_of_mem_splitSlashes {text piece : Text} {character : Char}
    (member : piece ∈ splitSlashes text) (held : character ∈ piece) :
    character ∈ text := by
  fun_induction splitSlashes text generalizing piece with
  | case1 =>
      obtain rfl := List.mem_singleton.mp member
      exact held
  | case2 rest ih =>
      rcases List.mem_cons.mp member with rfl | later
      · cases held
      · exact List.mem_cons_of_mem _ (ih later held)
  | case3 first rest _ empty ih =>
      obtain rfl := List.mem_singleton.mp member
      obtain rfl := List.mem_singleton.mp held
      exact List.mem_cons_self
  | case4 first rest _ front pieces split ih =>
      rcases List.mem_cons.mp member with rfl | later
      · rcases List.mem_cons.mp held with rfl | inside
        · exact List.mem_cons_self
        · refine List.mem_cons_of_mem _ (ih ?_ inside)
          rw [split]
          exact List.mem_cons_self
      · refine List.mem_cons_of_mem _ (ih ?_ held)
        rw [split]
        exact List.mem_cons_of_mem _ later

theorem hasNul_ofText {text : Text} (clean : '\x00' ∉ text) :
    (ofText text).hasNul = false := by
  unfold hasNul ofText
  rw [List.any_eq_false]
  intro component member
  have piece := (List.mem_filter.mp member).1
  rw [List.contains_iff_mem]
  exact fun held => clean (mem_of_mem_splitSlashes piece held)

end Path

/-- A place in the tree: the names that lead to it, the innermost first.  The
root has no name and is its own parent. -/
abbrev Place := List Text

inductive Node where
  | file (content : Bytes)
  | directory
deriving DecidableEq, Repr

inductive AccessReason where
  | missing
  | notDirectory
  | isDirectory
  | nameTooLong
  /-- A reason that only a storage device gives, by its number and text. -/
  | other (number : Nat) (text : Text)
deriving DecidableEq, Repr

namespace AccessReason

def number : AccessReason → Nat
  | .missing => 2
  | .notDirectory => 20
  | .isDirectory => 21
  | .nameTooLong => 36
  | .other number _ => number

def text : AccessReason → Text
  | .missing => "No such file or directory".toList
  | .notDirectory => "Not a directory".toList
  | .isDirectory => "Is a directory".toList
  | .nameTooLong => "File name too long".toList
  | .other _ text => text

end AccessReason

/-- What went wrong with an access: the path was refused, or it holds a
character that keeps it from being looked up at all. -/
inductive AccessFault where
  | refused (reason : AccessReason) (path : Path)
  | embeddedNul
deriving DecidableEq, Repr

def AccessFault.message : AccessFault → Text
  | .refused reason path =>
      "[Errno ".toList ++ Text.decimal reason.number ++ "] ".toList ++
        reason.text ++ ": ".toList ++ path.toText.quoted
  | .embeddedNul => "embedded null byte".toList

structure FileSystem where
  nodes : List (Place × Node)
  working : Place
deriving DecidableEq, Repr

namespace FileSystem

def node? (system : FileSystem) (place : Place) : Option Node :=
  if place = [] then some .directory else system.nodes.lookup place

def put (system : FileSystem) (place : Place) (node : Node) : FileSystem :=
  { system with
    nodes := (place, node) :: system.nodes.filter fun (other, _) => other ≠ place }

def makeDirectory (system : FileSystem) : Place → FileSystem
  | [] => system
  | name :: parent =>
      (system.makeDirectory parent).put (name :: parent) .directory

def makeFile (system : FileSystem) (place : Place) (content : Bytes) :
    FileSystem :=
  (system.makeDirectory place.tail).put place (.file content)

def ofWorking (working : Place) : FileSystem :=
  makeDirectory ⟨[], working⟩ working

def nameLimit : Nat := 255

def pathLimit : Nat := 4095

def byteLength (text : Text) : Nat := (Utf8.encode text).length

def walk (system : FileSystem) (place : Place) :
    List Text → Except AccessReason Place
  | [] => .ok place
  | component :: rest =>
      match system.node? place with
      | none => .error .missing
      | some (.file _) => .error .notDirectory
      | some .directory =>
          if nameLimit < byteLength component then .error .nameTooLong
          else
            let next := if component = ['.', '.'] then place.tail
              else component :: place
            system.walk next rest

def resolve (system : FileSystem) (path : Path) : Except AccessReason Place :=
  if pathLimit < byteLength path.toText then .error .nameTooLong
  else
    let start := match path.start with
      | .working => system.working
      | .root | .doubleRoot => []
    system.walk start path.components

def contentAt (system : FileSystem) (place : Place) :
    Except AccessReason Bytes :=
  match system.node? place with
  | none => .error .missing
  | some .directory => .error .isDirectory
  | some (.file content) => .ok content

/-- Accesses a path; nothing is looked up for a path with the character
zero. -/
def access {result : Type} (path : Path) (outcome : Except AccessReason result) :
    Except AccessFault result :=
  if path.hasNul then .error .embeddedNul
  else outcome.mapError fun reason => .refused reason path

def read (system : FileSystem) (path : Path) : Except AccessFault Bytes :=
  access path (system.resolve path >>= system.contentAt)

/-- Writes the file at a path, which is made if its directory is there. -/
def write (system : FileSystem) (path : Path) (content : Bytes) :
    Except AccessFault FileSystem :=
  access path do
    let place ← system.resolve path
    match system.node? place with
    | some .directory => .error .isDirectory
    | _ => return system.put place (.file content)

def changesSince (system before : FileSystem) : List (Place × Bytes) :=
  system.nodes.filterMap fun (place, node) =>
    match node with
    | .directory => none
    | .file content =>
        if before.node? place = some node then none else some (place, content)

theorem node?_put_self (system : FileSystem) {place : Place} (node : Node)
    (named : place ≠ []) : (system.put place node).node? place = some node := by
  simp [node?, put, named]

theorem node?_put_of_ne (system : FileSystem) {place other : Place}
    (node : Node) (apart : other ≠ place) :
    (system.put place node).node? other = system.node? other := by
  have kept (nodes : List (Place × Node)) :
      (nodes.filter fun (taken, _) => taken ≠ place).lookup other =
        nodes.lookup other := by
    induction nodes with
    | nil => rfl
    | cons entry rest ih =>
        obtain ⟨taken, held⟩ := entry
        by_cases same : taken = place
        · subst same
          have differs : (other == taken) = false := by simpa using apart
          simpa [List.filter_cons, List.lookup_cons, differs] using ih
        · simp only [List.filter_cons, same, ne_eq, not_false_eq_true,
            decide_true, ↓reduceIte, List.lookup_cons]
          rw [← ih]
  have differs : (other == place) = false := by simpa using apart
  simp only [node?, put, List.lookup_cons, differs]
  rw [kept]

end FileSystem

end DocTag
