import RemoteShell.Text

set_option autoImplicit false

namespace RemoteShell.Path

def root : Text := ['/']

def segments (path : Text) : List Text := Text.cut '/' path

def isHere (segment : Text) : Bool := segment = ['.']

def isUp (segment : Text) : Bool := segment = ['.', '.']

/-- Taking one more segment onto the stack, whose top is its head. Below a root `..` stops at the
root; in a relative path it is kept where nothing is left to take back. -/
def climb (rooted : Bool) (kept : List Text) (segment : Text) : List Text :=
  if segment.isEmpty || isHere segment then kept
  else if isUp segment then
    match kept with
    | [] => if rooted then [] else [segment]
    | last :: rest => if isUp last then segment :: kept else rest
  else segment :: kept

/-- The slashes a path starts with: exactly two stay two, and more than two count as one. -/
def leadingSlashes : Text → Nat
  | '/' :: '/' :: '/' :: _ => 1
  | '/' :: '/' :: _ => 2
  | '/' :: _ => 1
  | _ => 0

def normalize (path : Text) : Text :=
  let slashes := leadingSlashes path
  let kept := ((segments path).foldl (climb (slashes != 0)) []).reverse
  let result := List.replicate slashes '/' ++ Text.glue ['/'] kept
  if result.isEmpty then ['.'] else result

def isAbsolute (path : Text) : Bool := path.head? = some '/'

def endsInSlash (path : Text) : Bool := path.getLast? = some '/'

def join (base path : Text) : Text :=
  if isAbsolute path then path
  else if base.isEmpty || endsInSlash base then base ++ path
  else base ++ '/' :: path

/-- The last segment says that a directory is meant: it is empty, `.` or `..`. -/
def meansDirectory (path : Text) : Bool :=
  match (segments path).getLast? with
  | some last => last.isEmpty || isHere last || isUp last
  | none => false

/-- The absolute path that `path` names from `base`. It ends in a slash if `path` means a
directory. -/
def resolve (base path : Text) : Text :=
  if path.isEmpty then base
  else
    let plain := normalize (join base path)
    let plain := if leadingSlashes plain = 2 then '/' :: plain.dropWhile (· = '/') else plain
    if meansDirectory path && !endsInSlash plain then plain ++ ['/'] else plain

def asDirectory (path : Text) : Text := if endsInSlash path then path else path ++ ['/']

end RemoteShell.Path
