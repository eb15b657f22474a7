import RemoteShell.Text

set_option autoImplicit false

namespace RemoteShell

/-- A reference cut into its parts. An empty scheme or authority is an absent one. -/
structure Reference where
  scheme : Text
  authority : Text
  path : Text
  query : Option Text
  fragment : Option Text

namespace Reference

def isSchemeChar (c : Char) : Bool :=
  Text.isLetter c || Text.isDigit c || c = '+' || c = '.' || c = '-'

def startsScheme : Text → Bool
  | [] => true
  | c :: _ => Text.isLetter c

def takeScheme (s : Text) : Text × Text :=
  let word := s.takeWhile isSchemeChar
  match s.dropWhile isSchemeChar with
  | ':' :: rest => if startsScheme word then (word, rest) else ([], s)
  | _ => ([], s)

def takeAuthority : Text → Text × Text
  | '/' :: '/' :: rest =>
    (rest.takeWhile fun c => c ≠ '/' ∧ c ≠ '?' ∧ c ≠ '#',
      rest.dropWhile fun c => c ≠ '/' ∧ c ≠ '?' ∧ c ≠ '#')
  | s => ([], s)

def parse (s : Text) : Reference :=
  let (scheme, rest) := takeScheme s
  let (authority, rest) := takeAuthority rest
  let (before, fragment) := Text.cutOnce '#' rest
  let (path, query) := Text.cutOnce '?' before
  ⟨scheme, authority, path, query, fragment⟩

end Reference

end RemoteShell
