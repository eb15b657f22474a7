import RemoteShell.Assoc
import RemoteShell.Location
import RemoteShell.Text.Utf8

set_option autoImplicit false

namespace RemoteShell

/-- A place on a disk. Its names come from the last one up to the root; above the root they are
`..`. -/
structure Place where
  root : Root
  names : List Text
  deriving DecidableEq, Repr

namespace Place

def text (p : Place) : Text := p.root.text ++ p.names.reverse.flatMap fun name => '/' :: name

def isAboveRoot (p : Place) : Bool := p.names.all Path.isUp

def parent (p : Place) : Place :=
  if p.isAboveRoot then
    if p.root = .top then p else { p with names := ['.', '.'] :: p.names }
  else { p with names := p.names.drop 1 }

end Place

/-- Files and directories by place. A directory is kept once it was made, also without files. -/
structure Disk where
  files : List (Place × Octets)
  directories : List Place

namespace Disk

inductive Obstacle where
  | missing
  | notDirectory
  | isDirectory
  | longName
  deriving DecidableEq, Repr

def empty : Disk := ⟨[], []⟩

def isFile (d : Disk) (p : Place) : Bool := (d.files.lookup p).isSome

def isDirectory (d : Disk) (p : Place) : Bool := p.isAboveRoot || d.directories.contains p

/-- The most octets that one name may have. -/
def longestName : Nat := 255

/-- The fewest octets that a whole path may not have. -/
def pathEnd : Nat := 4096

def isLonger (limit : Nat) (s : Text) : Bool := limit < (Utf8.encode s).length

def enter (d : Disk) (p : Place) (name : Text) : Except Obstacle Place :=
  if d.isFile p then .error .notDirectory
  else if !d.isDirectory p then .error .missing
  else if Path.isUp name then .ok p.parent
  else if isLonger longestName name then .error .longName
  else .ok { p with names := name :: p.names }

def walk (d : Disk) (root : Root) (names : List Text) : Except Obstacle Place :=
  names.foldlM d.enter ⟨root, []⟩

def find (d : Disk) (l : Location) : Except Obstacle Place :=
  if isLonger (pathEnd - 1) l.text then .error .longName else d.walk l.root l.names

def read (d : Disk) (l : Location) : Except Obstacle Octets :=
  match d.find l with
  | .error obstacle => .error obstacle
  | .ok p =>
    match d.files.lookup p with
    | some content => .ok content
    | none => .error (if d.isDirectory p then .isDirectory else .missing)

abbrev Changed := Disk × Bool

def addDirectory (d : Disk) (p : Place) : Changed :=
  if d.isFile p then (d, false)
  else if d.isDirectory p then (d, true)
  else ({ d with directories := p :: d.directories }, true)

/-- Making a directory, and those above it if it has no place yet. The names come from the last one
up. -/
def makeNamed (d : Disk) (root : Root) : List Text → Changed
  | [] => (d, true)
  | name :: above =>
    match d.walk root (name :: above).reverse with
    | .ok p => d.addDirectory p
    | .error .missing =>
      match makeNamed d root above with
      | (d, true) =>
        match d.walk root (name :: above).reverse with
        | .ok p => d.addDirectory p
        | .error _ => (d, false)
      | (d, false) => (d, false)
    | .error _ => (d, false)

def makeDirectory (d : Disk) (l : Location) : Changed := d.makeNamed l.root l.names.reverse

def put (d : Disk) (p : Place) (content : Octets) : Disk :=
  { d with files := (p, content) :: d.files.filter fun f => f.1 ≠ p }

def write (d : Disk) (l : Location) (content : Octets) : Changed :=
  match d.makeNamed l.root (l.names.reverse.drop 1) with
  | (d, false) => (d, false)
  | (d, true) =>
    match d.find l with
    | .ok p => if d.isDirectory p then (d, false) else (d.put p content, true)
    | .error _ => (d, false)

def remove (d : Disk) (l : Location) : Disk :=
  match d.find l with
  | .ok p => { d with files := d.files.filter fun f => f.1 ≠ p }
  | .error _ => d

def isOwn (p : Place) : Bool := p.root ≠ .top && !p.names.any Path.isUp

def ownFiles (d : Disk) : Assoc Octets :=
  ((d.files.filter fun f => isOwn f.1).map fun f => (f.1.text, f.2)).mergeSort fun a b =>
    Text.le a.1 b.1

end Disk

end RemoteShell
