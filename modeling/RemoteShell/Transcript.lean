import RemoteShell.Markup

set_option autoImplicit false

namespace RemoteShell.Transcript

open Markup

def input (line : Text) : Text := tagged "dim".toList ['>'] ++ ' ' :: escape line

def error (message : Text) : Text :=
  tagged "bold red".toList "Error:".toList ++ ' ' :: escape message

def success (message : Text) : Text := tagged "bold green".toList ['✓'] ++ ' ' :: escape message

def info (message : Text) : Text :=
  tagged "bold blue".toList "Info:".toList ++ ' ' :: escape message

/-- An error is shown as it is; other results are markup, and an empty one is not shown. -/
def result? (isError : Bool) (markup : Text) : Option Text :=
  if isError then some (error markup) else if markup.isEmpty then none else some markup

def status (address workPath : Text) : List Text :=
  [tagged "bold blue".toList "vfsh".toList ++ " - Type help for commands.".toList,
    "Remote: ".toList ++ tagged "green".toList (escape address),
    "Directory: ".toList ++ escape workPath ++ ['\n']]

def farewell : Text := '\n' :: tagged "bold blue".toList "Goodbye!".toList

end RemoteShell.Transcript
