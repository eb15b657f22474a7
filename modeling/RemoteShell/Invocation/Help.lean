import RemoteShell.Invocation

set_option autoImplicit false

namespace RemoteShell.Invocation

def programName : Text := "vfsh".toList

def version : Text := "0.1.0".toList

def description : Text := "Shell for a remote virtual filesystem".toList

def Switch.summary : Switch → Text
  | .help => "show this help message and exit".toList
  | .url => "Root URL of the remote filesystem".toList
  | .timeout => "HTTP timeout in seconds".toList
  | .config => "Path to a JSON config file".toList
  | .logLevel => "Logging level (DEBUG, INFO, WARNING, ...)".toList
  | .unordered => "Render results as soon as they finish instead of in submission order".toList
  | .command => "Run a command line and exit (repeatable)".toList
  | .version => "show program's version number and exit".toList

def withPlaceholder (s : Switch) (name : Text) : Text :=
  match s.placeholder with
  | some p => name ++ ' ' :: p
  | none => name

def Switch.usage (s : Switch) : Text := '[' :: withPlaceholder s (s.names.headD []) ++ [']']

def Switch.heading (s : Switch) : Text :=
  Text.glue [',', ' '] (s.names.map (withPlaceholder s))

/-- Words set into lines. The first line goes on from a column, the others are indented. -/
def setWords (width indent column : Nat) (line : List Text) : List Text → List (List Text)
  | [] => if line.isEmpty then [] else [line]
  | word :: rest =>
    if width < column + 1 + word.length && !line.isEmpty then
      line :: setWords width indent (indent + word.length) [word] rest
    else setWords width indent (column + 1 + word.length) (line ++ [word]) rest

def usageLead : Text := "usage: ".toList

def usableColumns (columns : Nat) : Nat := columns - 2

/-- Running text is at least this wide, whatever the screen. -/
def textWidth (columns : Nat) : Nat := max columns 11

def blanks (n : Nat) : Text := List.replicate n ' '

def indented (indent : Nat) (lines : List (List Text)) : List Text :=
  lines.map fun line => blanks indent ++ Text.glue [' '] line

/-- The usage on one line if it fits, else set below the program's name. -/
def usage (columns : Nat) : Text :=
  let width := usableColumns columns
  let parts := Switch.all.map Switch.usage
  let oneLine := Text.glue [' '] (programName :: parts)
  let lead := usageLead.length
  let body :=
    if lead + oneLine.length ≤ width then oneLine
    else if 4 * (lead + programName.length) ≤ 3 * width then
      let indent := lead + programName.length + 1
      let lines := setWords width indent (lead - 1) [] (programName :: parts)
      Text.glue ['\n'] ((indented indent lines).modifyHead fun line => line.drop indent)
    else
      Text.glue ['\n'] (programName :: indented lead (setWords width lead (lead - 1) [] parts))
  usageLead ++ body ++ ['\n']

/-- Words filled into lines. A word that is too long for any line is cut. -/
def fillWords (width : Nat) : Nat → Text → List Text → List Text
  | 0, line, _ => [line]
  | _, line, [] => if line.isEmpty then [] else [line]
  | fuel + 1, line, word :: rest =>
    let begun := if line.isEmpty then [] else line ++ [' ']
    if begun.length + word.length ≤ width then fillWords width fuel (begun ++ word) rest
    else if width < word.length then
      let room := width - begun.length
      if room = 0 then line :: fillWords width fuel [] (word :: rest)
      else (begun ++ word.take room) :: fillWords width fuel [] (word.drop room :: rest)
    else line :: fillWords width fuel [] (word :: rest)

def fill (width : Nat) (s : Text) : List Text :=
  fillWords width (2 * s.length + 1) [] (Text.cut ' ' s)

def headingIndent : Nat := 2

def widestHeading : Nat :=
  (Switch.all.map fun s => s.heading.length + headingIndent).foldl max 0

def helpColumn (columns : Nat) : Nat :=
  min (widestHeading + 2) (min 24 (max (usableColumns columns - 20) 4))

def switchHelp (columns : Nat) (s : Switch) : Text :=
  let column := helpColumn columns
  let lines := fill (textWidth (usableColumns columns - column)) s.summary
  let rest := lines.map fun line => blanks column ++ line ++ ['\n']
  let heading := blanks headingIndent ++ s.heading
  if heading.length + 2 ≤ column then
    Text.padRight column heading ++ ((rest.headD []).drop column) ++ (rest.drop 1).flatten
  else heading ++ '\n' :: rest.flatten

def help (columns : Nat) : Text :=
  let about := Text.glue ['\n'] (fill (textWidth (usableColumns columns)) description)
  usage columns ++ '\n' :: about ++ "\n\noptions:\n".toList ++
    Switch.all.flatMap (switchHelp columns)

def versionText : Text := programName ++ ' ' :: version ++ ['\n']

def complaint (columns : Nat) (r : Refusal) : Text :=
  usage columns ++ programName ++ ": error: ".toList ++ r.message ++ ['\n']

end RemoteShell.Invocation
