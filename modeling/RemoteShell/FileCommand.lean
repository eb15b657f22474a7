import RemoteShell.Markup
import RemoteShell.Path
import RemoteShell.Registry
import RemoteShell.Remote

set_option autoImplicit false

namespace RemoteShell

inductive FileCommand where
  | pwd | cd | ls | stat | openFile | read | cat | write | rm
  deriving DecidableEq, Repr

inductive Plan where
  | say (markup : Text)
  | move (workPath markup : Text)
  | ask (call : Call) (report : Response → Except Fault Text)

namespace FileCommand

open Markup

def title (word : String) (target : Text) : Text :=
  tagged "bold".toList (word.toList ++ ' ' :: escape target)

def entryStyle (type : Text) : Text :=
  if type = "directory".toList then "bold cyan".toList else "white".toList

def entryRow (e : Entry) : Text :=
  let state := if e.isOpen then "open" else "closed"
  ' ' :: ' ' :: tagged (entryStyle e.type) (escape e.path) ++
    ' ' :: tagged "dim".toList ('(' :: escape e.type ++ ", ".toList ++ state.toList ++ [')'])

def listing (target : Text) (entries : List Entry) : Text :=
  let rows :=
    if entries.isEmpty then ["  ".toList ++ tagged "dim".toList "(empty)".toList]
    else entries.map entryRow
  title "Listing" target ++ '\n' :: Text.glue ['\n'] rows

def details (target : Text) (info : Value) : Text :=
  title "Stat" target ++ '\n' :: escape (Json.pretty 0 info)

def content (target text : Text) : Text := title "File" target ++ '\n' :: escape text

def pathName : Text := "path".toList

def contentName : Text := "content".toList

def target (workPath : Text) (a : Arguments) : Text :=
  Path.resolve workPath (a.word pathName [])

def moveTo (workPath : Text) : Plan := .move workPath (escape workPath)

def plan (workPath : Text) (a : Arguments) : FileCommand → Plan
  | .pwd => .say (escape workPath)
  | .cd => moveTo (Path.asDirectory (Path.resolve workPath (a.word pathName Path.root)))
  | .ls =>
    let t := target workPath a
    .ask (.list t) fun r => r.entries.map (listing t)
  | .stat =>
    let t := target workPath a
    .ask (.info t) fun r => r.json.map (details t)
  | .openFile =>
    let t := target workPath a
    .ask (.openFile t a.options) fun _ => .ok (title "Opened" t)
  | .read =>
    let t := target workPath a
    .ask (.read t a.options) fun r => .ok (content t r.text)
  | .cat =>
    let t := target workPath a
    .ask (.read t []) fun r => .ok (content t r.text)
  | .write =>
    let t := target workPath a
    .ask (.write t (a.word contentName []) a.options) fun _ => .ok (title "Wrote" t)
  | .rm =>
    let t := target workPath a
    .ask (.delete t a.options) fun _ => .ok (title "Deleted" t)

def descriptor (name summary : String) (c : FileCommand) (arguments : List Text) (required : Nat)
    (options : Option (List Text)) : Descriptor (Handler FileCommand) :=
  ⟨name.toList, summary.toList, .action c, arguments, required, options, none⟩

def descriptors : List (Descriptor (Handler FileCommand)) :=
  [descriptor "pwd" "Show the working path" .pwd [] 0 (some []),
    descriptor "cd" "Change the working path" .cd [pathName] 0 (some []),
    descriptor "ls" "List a directory" .ls [pathName] 0 (some []),
    descriptor "stat" "Show resource metadata" .stat [pathName] 0 (some []),
    descriptor "open" "Open a resource" .openFile [pathName] 1 none,
    descriptor "read" "Read a file" .read [pathName] 1 none,
    descriptor "cat" "Print a file" .cat [pathName] 1 (some []),
    descriptor "write" "Write content to a file" .write [pathName, contentName] 2 none,
    descriptor "rm" "Delete a resource" .rm [pathName] 1 none]

def registry : Registry FileCommand :=
  ⟨descriptors ++ [Registry.helpDescriptor], Registry.helpName, true⟩

end FileCommand

end RemoteShell
