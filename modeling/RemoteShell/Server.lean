import RemoteShell.Http
import RemoteShell.Json.Write

/-! A remote file system kept in memory. Paths are flat; a directory is a common beginning of file
paths that ends in a slash. -/

set_option autoImplicit false

namespace RemoteShell

structure Server where
  files : Assoc Text
  opened : List Text

namespace Server

/-- A server over files, of which the last one of a path counts. -/
def ofFiles (files : List (Text × Text)) : Server := ⟨Assoc.ofPairs files, []⟩

/-- One line of a directory: a file, or a directory with a slash at its end. -/
structure Row where
  path : Text
  isDirectory : Bool
  deriving DecidableEq, Repr

def row? (directory file : Text) : Option Row :=
  if Text.hasPrefix directory file then
    match Text.cutOnce '/' (file.drop directory.length) with
    | (name, some _) => some ⟨directory ++ name ++ ['/'], true⟩
    | (name, none) => some ⟨directory ++ name, false⟩
  else none

def asDirectory (path : Text) : Text := if path.getLast? = some '/' then path else path ++ ['/']

def rows (s : Server) (path : Text) : List Row :=
  let found := s.files.filterMap fun f => row? (asDirectory path) f.1
  found.eraseDups.mergeSort fun a b => Text.le a.path b.path

def Row.value (s : Server) (r : Row) : Value :=
  .map <| Value.Fields.ofAssoc [("path".toList, .text r.path),
    ("type".toList, .text (if r.isDirectory then "directory".toList else "file".toList)),
    ("open".toList, .bool (s.opened.contains r.path))]

def infoValue (path content : Text) : Value :=
  .map <| Value.Fields.ofAssoc [("path".toList, .text path), ("type".toList, .text "file".toList),
    ("size".toList, .int content.length)]

def notFound (path : Text) : Response := .ofText 404 ("Not found: ".toList ++ path)

def noDirectory (path : Text) : Response := .ofText 404 ("No such directory: ".toList ++ path)

def handle (s : Server) (method : Method) (path body : Text) : Server × Response :=
  match method with
  | .list =>
    let found := s.rows path
    if found.isEmpty && path ≠ ['/'] then (s, noDirectory path)
    else (s, .ofText 200 (Json.write (.list (found.map (Row.value s)))))
  | .put => ({ s with files := Assoc.put path body s.files }, .ofText 201 [])
  | .info =>
    match Assoc.get? path s.files with
    | some content => (s, .ofText 200 (Json.write (infoValue path content)))
    | none => (s, notFound path)
  | .openFile =>
    if Assoc.has path s.files then ({ s with opened := s.opened ++ [path] }, .ofText 204 [])
    else (s, notFound path)
  | .get =>
    match Assoc.get? path s.files with
    | some content => (s, .ofText 200 content)
    | none => (s, notFound path)
  | .delete =>
    if Assoc.has path s.files then ({ s with files := Assoc.erase path s.files }, .ofText 204 [])
    else (s, notFound path)

def answer (s : Server) (r : Request) : Server × Response := s.handle r.method r.url.seenPath r.body

def sortedFiles (s : Server) : Assoc Text := s.files.mergeSort fun a b => Text.le a.1 b.1

end Server

end RemoteShell
