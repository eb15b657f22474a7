import RemoteShell.Path

set_option autoImplicit false

namespace RemoteShell

inductive Root where
  | home
  | working
  | top
  deriving DecidableEq, Repr

def Root.text : Root → Text
  | .home => ['~']
  | .working => ['.']
  | .top => []

inductive Location where
  | home (path : Text)
  | given (path : Text)
  deriving DecidableEq, Repr

namespace Location

def solid (path : Text) : List Text :=
  (Path.segments path).filter fun s => !s.isEmpty && !Path.isHere s

/-- A path with its solid segments only; a relative one that is left empty is `.`. -/
def tidy (path : Text) : Text :=
  let body := Text.glue ['/'] (solid path)
  match Path.leadingSlashes path with
  | 0 => if body.isEmpty then ['.'] else body
  | n => List.replicate n '/' ++ body

def ofText (path : Text) : Location := .given (tidy path)

def text : Location → Text
  | .home path => '~' :: '/' :: path
  | .given path => path

def root : Location → Root
  | .home _ => .home
  | .given path => if Path.isAbsolute path then .top else .working

/-- The names on the way from the root; `..` is kept as one. -/
def names : Location → List Text
  | .home path | .given path => solid path

end Location

end RemoteShell
