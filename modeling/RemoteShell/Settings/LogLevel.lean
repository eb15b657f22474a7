import RemoteShell.Text.Quoted

set_option autoImplicit false

namespace RemoteShell.LogLevel

def levels : List (String × Nat) :=
  [("NOTSET", 0), ("DEBUG", 10), ("INFO", 20), ("WARNING", 30), ("WARN", 30), ("ERROR", 40),
    ("CRITICAL", 50), ("FATAL", 50)]

def unnamed : Nat := 30

def capitals : List (Char × String) :=
  [('ı', "I"), ('ſ', "S"), ('ß', "SS"), ('ﬀ', "FF"), ('ﬁ', "FI"), ('ﬂ', "FL"), ('ﬃ', "FFI"),
    ('ﬄ', "FFL"), ('ﬅ', "ST"), ('ﬆ', "ST")]

/-- Upper case as far as it reaches ASCII. -/
def upper (s : Text) : Text :=
  s.flatMap fun c => (capitals.lookup c).elim [c.toUpper] String.toList

/-- A name of something else than a level: the layout of log records, or the table of the styles
that layouts are written in. -/
inductive Fault where
  | layout
  | styles
  deriving DecidableEq, Repr

def Fault.name : Fault → Text
  | .layout => "BASIC_FORMAT".toList
  | .styles => "_STYLES".toList

def layoutText : Text := "%(levelname)s:%(name)s:%(message)s".toList

def stylesText : Text :=
  "\x7b'%': (<class 'logging.PercentStyle'>, ".toList ++ Text.quoted layoutText ++
    "), '\x7b': (<class 'logging.StrFormatStyle'>, ".toList ++
    "'\x7blevelname\x7d:\x7bname\x7d:\x7bmessage\x7d'), ".toList ++
    "'$': (<class 'logging.StringTemplateStyle'>, ".toList ++
    "'$\x7blevelname\x7d:$\x7bname\x7d:$\x7bmessage\x7d')\x7d".toList

def Fault.message : Fault → Text
  | .layout => "Unknown level: ".toList ++ Text.quoted layoutText
  | .styles => "Level not an integer or a valid string: ".toList ++ stylesText

/-- The number of a level, in any case; a name that is not known has one too. -/
def number (name : Text) : Except Fault Nat :=
  let name := upper name
  match [Fault.layout, .styles].find? fun f => f.name == name with
  | some fault => .error fault
  | none => .ok ((levels.find? fun l => l.1.toList == name).elim unnamed Prod.snd)

end RemoteShell.LogLevel
