import RemoteShell.Location
import RemoteShell.Settings.Numeral
import RemoteShell.Value

set_option autoImplicit false

namespace RemoteShell

structure Settings where
  baseUrl : Text
  timeout : Double
  historyFile : Option Location
  maxHistory : Nat
  isOrdered : Bool
  prompt : Text
  logLevel : Text

namespace Settings

inductive Problem where
  | numberText | numberKind
  | integerText | integerFraction | integerInfinite | integerSize | integerKind | belowZero
  | truthText | truthKind
  | textKind
  | pathKind
  deriving DecidableEq, Repr

def Problem.kind : Problem → Text
  | .numberText => "float_parsing".toList
  | .numberKind => "float_type".toList
  | .integerText => "int_parsing".toList
  | .integerFraction => "int_from_float".toList
  | .integerInfinite => "finite_number".toList
  | .integerSize => "int_parsing_size".toList
  | .integerKind => "int_type".toList
  | .belowZero => "greater_than_equal".toList
  | .truthText => "bool_parsing".toList
  | .truthKind => "bool_type".toList
  | .textKind => "string_type".toList
  | .pathKind => "path_type".toList

def Problem.message : Problem → Text
  | .numberText =>
    "Input should be a valid number, unable to parse string as a number".toList
  | .numberKind => "Input should be a valid number".toList
  | .integerText =>
    "Input should be a valid integer, unable to parse string as an integer".toList
  | .integerFraction =>
    "Input should be a valid integer, got a number with a fractional part".toList
  | .integerInfinite => "Input should be a finite number".toList
  | .integerSize => "Unable to parse input string as an integer, exceeded maximum size".toList
  | .integerKind => "Input should be a valid integer".toList
  | .belowZero => "Input should be greater than or equal to 0".toList
  | .truthText => "Input should be a valid boolean, unable to interpret input".toList
  | .truthKind => "Input should be a valid boolean".toList
  | .textKind => "Input should be a valid string".toList
  | .pathKind => "Input is not a valid path for <class 'pathlib.Path'>".toList

/-- Numbers, truth values and numerals. An integer beyond all doubles is no number. -/
def readNumber : Value → Except Problem Double
  | .real x => .ok x
  | .text s =>
    match Numeral.number? s.toText with
    | some x => .ok x
    | none => .error .numberText
  | .bool b => .ok (Double.ofInt (if b then 1 else 0))
  | .int n =>
    match Double.ofInt n with
    | .infinite _ => .error .numberKind
    | x => .ok x
  | _ => .error .numberKind

/-- The first integer with more than sixty-four bits, sign included. -/
def wordEnd : Int := 9223372036854775808

def isWord (n : Int) : Bool := -wordEnd ≤ n && n < wordEnd

def readInteger : Value → Except Problem Int
  | .int n => .ok n
  | .bool b => .ok (if b then 1 else 0)
  | .real x =>
    if x.isFinite then
      match x.whole? with
      | some n => if isWord n then .ok n else .error .integerSize
      | none => .error .integerFraction
    else .error .integerInfinite
  | .text s =>
    match Numeral.integer s.toText with
    | .ok n => .ok n
    | .error .form => .error .integerText
    | .error .size => .error .integerSize
  | _ => .error .integerKind

def readCount (v : Value) : Except Problem Nat :=
  match readInteger v with
  | .ok n => if n < 0 then .error .belowZero else .ok n.toNat
  | .error p => .error p

def yesWords : List Text := ["1", "true", "t", "yes", "y", "on"].map String.toList

def noWords : List Text := ["0", "false", "f", "no", "n", "off"].map String.toList

def readTruth (v : Value) : Except Problem Bool :=
  match v with
  | .text s =>
    if yesWords.contains (Text.lowerAscii s.toText) then .ok true
    else if noWords.contains (Text.lowerAscii s.toText) then .ok false
    else .error .truthText
  | v =>
    match v.whole? with
    | some n =>
      if n = 1 then .ok true
      else if n = 0 then .ok false
      else if isWord n then .error .truthText
      else .error .truthKind
    | none => .error .truthKind

def readText : Value → Except Problem Text
  | .text s => .ok s.toText
  | _ => .error .textKind

def readLocation : Value → Except Problem (Option Location)
  | .null => .ok none
  | .text s => .ok (some (.ofText s.toText))
  | _ => .error .pathKind

structure Invalid where
  setting : Text
  problem : Problem
  deriving DecidableEq, Repr

abbrev Layers := List (Assoc Value)

/-- The value of a setting in the first layer that has one, or its default. -/
def pick {α : Type} (setting : String) (read : Value → Except Problem α) (default : α)
    (layers : Layers) : Except Invalid α :=
  match layers.findSome? (Assoc.get? setting.toList) with
  | some v => (read v).mapError fun p => ⟨setting.toList, p⟩
  | none => .ok default

def defaults : Settings where
  baseUrl := "http://localhost:8080".toList
  timeout := Double.ofInt 30
  historyFile := some (.home ".vfsh/history.json".toList)
  maxHistory := 500
  isOrdered := true
  prompt := "vfsh> ".toList
  logLevel := "WARNING".toList

def invalid? {α : Type} : Except Invalid α → List Invalid
  | .ok _ => []
  | .error i => [i]

def ofLayers (layers : Layers) : Except (List Invalid) Settings :=
  let baseUrl := pick "base_url" readText defaults.baseUrl layers
  let timeout := pick "timeout" readNumber defaults.timeout layers
  let historyFile := pick "history_file" readLocation defaults.historyFile layers
  let maxHistory := pick "max_history" readCount defaults.maxHistory layers
  let isOrdered := pick "ordered" readTruth defaults.isOrdered layers
  let prompt := pick "prompt" readText defaults.prompt layers
  let logLevel := pick "log_level" readText defaults.logLevel layers
  match baseUrl, timeout, historyFile, maxHistory, isOrdered, prompt, logLevel with
  | .ok a, .ok b, .ok c, .ok d, .ok e, .ok f, .ok g => .ok ⟨a, b, c, d, e, f, g⟩
  | _, _, _, _, _, _, _ =>
    .error (invalid? baseUrl ++ invalid? timeout ++ invalid? historyFile ++ invalid? maxHistory ++
      invalid? isOrdered ++ invalid? prompt ++ invalid? logLevel)

end Settings

end RemoteShell
