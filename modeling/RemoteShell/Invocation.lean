import RemoteShell.Assoc
import RemoteShell.Location
import RemoteShell.Number.Numeral
import RemoteShell.Text.Quoted

set_option autoImplicit false

namespace RemoteShell

/-- What a switch is given. Two dashes attached to it give nothing. -/
inductive Given (α : Type) where
  | value (a : α)
  | nothing
  deriving DecidableEq, Repr

namespace Given

def ofAttached (text : Text) : Given Text := if text = ['-', '-'] then .nothing else .value text

def map {α β : Type} (f : α → β) : Given α → Given β
  | .value a => .value (f a)
  | .nothing => .nothing

def toOption {α : Type} : Given α → Option α
  | .value a => some a
  | .nothing => none

end Given

structure Invocation where
  command : Option (List (Given Text))
  config : Option (Given Text)
  logLevel : Option (Given Text)
  timeout : Option (Given Double)
  isUnordered : Bool
  url : Option (Given Text)

namespace Invocation

inductive Switch where
  | help | url | timeout | config | logLevel | unordered | command | version
  deriving DecidableEq, Repr

def Switch.all : List Switch :=
  [.help, .url, .timeout, .config, .logLevel, .unordered, .command, .version]

def Switch.names : Switch → List Text
  | .help => ["-h".toList, "--help".toList]
  | .url => ["--url".toList]
  | .timeout => ["--timeout".toList]
  | .config => ["--config".toList]
  | .logLevel => ["--log-level".toList]
  | .unordered => ["--unordered".toList]
  | .command => ["-c".toList, "--command".toList]
  | .version => ["--version".toList]

/-- The word for the value in help; a switch without one takes no value. -/
def Switch.placeholder : Switch → Option Text
  | .url => some "URL".toList
  | .timeout => some "TIMEOUT".toList
  | .config => some "CONFIG".toList
  | .logLevel => some "LOG_LEVEL".toList
  | .command => some "LINE".toList
  | .help | .unordered | .version => none

def Switch.takesValue (s : Switch) : Bool := s.placeholder.isSome

def names : List (Text × Switch) := Switch.all.flatMap fun s => s.names.map fun n => (n, s)

inductive Refusal where
  | ambiguous (argument : Text) (matching : List Text)
  | noValue (s : Switch)
  | strayValue (s : Switch) (value : Text)
  | badNumber (s : Switch) (value : Text)
  | unknown (arguments : List Text)
  deriving DecidableEq, Repr

def Switch.title (s : Switch) : Text := "argument ".toList ++ Text.glue ['/'] s.names ++ ": ".toList

def Refusal.message : Refusal → Text
  | .ambiguous argument matching =>
    "ambiguous option: ".toList ++ argument ++ " could match ".toList ++
      Text.glue [',', ' '] matching
  | .noValue s => s.title ++ "expected one argument".toList
  | .strayValue s value => s.title ++ "ignored explicit argument ".toList ++ Text.quoted value
  | .badNumber s value => s.title ++ "invalid float value: ".toList ++ Text.quoted value
  | .unknown arguments => "unrecognized arguments: ".toList ++ Text.glue [' '] arguments

/-- What an argument is: a plain value, a switch under a name with the text attached to it, or an
option that is not known. -/
inductive Token where
  | plain
  | switch (name : Text) (s : Switch) (attached : Option Text)
  | unknown
  deriving DecidableEq, Repr

/-- A minus sign before digits, or before digits with one point and more digits. The end of a line
may follow. -/
def isNegativeNumber : Text → Bool
  | '-' :: rest =>
    let rest := if rest.getLast? = some '\n' then rest.dropLast else rest
    match rest.dropWhile Text.isDecimal with
    | [] => !rest.isEmpty
    | '.' :: fraction => !fraction.isEmpty && fraction.all Text.isDecimal
    | _ => false
  | _ => false

def candidates (argument : Text) : List (Text × Switch × Option Text) :=
  match argument with
  | '-' :: '-' :: _ =>
    let (start, value) := Text.cutOnce '=' argument
    names.filterMap fun (name, s) =>
      if Text.hasPrefix start name then some (name, s, value) else none
  | _ =>
    names.filterMap fun (name, s) =>
      if name = argument.take 2 then some (name, s, some (argument.drop 2))
      else if Text.hasPrefix argument name then some (name, s, none)
      else none

def isDash (argument : Text) : Bool := argument = ['-']

def assigned? (argument : Text) : Option (Text × Switch × Text) :=
  match Text.cutOnce '=' argument with
  | (name, some value) => (Assoc.get? name names).map fun s => (name, s, value)
  | (_, none) => none

def token (argument : Text) : Except Refusal Token :=
  if argument.head? ≠ some '-' || isDash argument then .ok .plain
  else
    match Assoc.get? argument names, assigned? argument with
    | some s, _ => .ok (.switch argument s none)
    | none, some (name, s, value) => .ok (.switch name s (some value))
    | none, none =>
      match candidates argument with
      | [(name, s, attached)] => .ok (.switch name s attached)
      | [] =>
        if isNegativeNumber argument || argument.contains ' ' then .ok .plain else .ok .unknown
      | several => .error (.ambiguous argument (several.map Prod.fst))

/-- The arguments with their tokens. After two dashes all is plain, and so are they. -/
def tokens : List Text → Except Refusal (List (Text × Token))
  | [] => .ok []
  | a :: rest =>
    if a = ['-', '-'] then .ok ((a, .plain) :: rest.map fun b => (b, .plain))
    else
      match token a with
      | .error r => .error r
      | .ok t => (tokens rest).map ((a, t) :: ·)

/-- What becomes of the arguments: one that nothing takes, switches without values, or such switches
with one after them that has a value. -/
inductive Use where
  | extra (argument : Text)
  | flags (switches : List Switch)
  | value (before : List Switch) (s : Switch) (v : Given Text)
  | refused (r : Refusal)
  deriving DecidableEq, Repr

def isShort (name : Text) : Bool := name.length = 2

/-- The switches of one argument. The last one may have a value, or may still wait for it. -/
structure Cluster where
  before : List Switch
  last : Switch
  value : Option Text
  deriving DecidableEq, Repr

/-- A switch with the text attached to it. Letters after a short switch without a value are short
switches too. -/
def attach (name : Text) (s : Switch) (before : List Switch) : Text → Except Refusal Cluster
  | [] => if s.takesValue then .ok ⟨before, s, some []⟩ else .error (.strayValue s [])
  | c :: rest =>
    if s.takesValue then .ok ⟨before, s, some (c :: rest)⟩
    else
      match if isShort name then Assoc.get? ['-', c] names else none, rest with
      | none, _ => .error (.strayValue s (c :: rest))
      | some next, [] => .ok ⟨before ++ [s], next, none⟩
      | some next, d :: more => attach ['-', c] next (before ++ [s]) (d :: more)

def cluster (name : Text) (s : Switch) : Option Text → Except Refusal Cluster
  | some text => attach name s [] text
  | none => .ok ⟨[], s, none⟩

def use (name : Text) (s : Switch) (attached next : Option Text) : Use × Bool :=
  match cluster name s attached with
  | .error r => (.refused r, false)
  | .ok ⟨before, s, some text⟩ => (.value before s (.ofAttached text), false)
  | .ok ⟨before, s, none⟩ =>
    if s.takesValue then
      match next with
      | some v => (.value before s (.value v), true)
      | none => (.refused (.noValue s), false)
    else (.flags (before ++ [s]), false)

/-- Two dashes are never the value of a switch before them. -/
def nextValue (argument : Text) : Token → Option Text
  | .plain => if argument = ['-', '-'] then none else some argument
  | _ => none

def uses : List (Text × Token) → List Use
  | [] => []
  | [(a, t)] =>
    match t with
    | .switch name s attached => [(use name s attached none).1]
    | _ => [.extra a]
  | (a, t) :: (b, u) :: rest =>
    match t with
    | .switch name s attached =>
      match use name s attached (nextValue b u) with
      | (used, true) => used :: uses rest
      | (used, false) => used :: uses ((b, u) :: rest)
    | _ => .extra a :: uses ((b, u) :: rest)

inductive Stop where
  | help
  | version
  | refused (r : Refusal)
  deriving DecidableEq, Repr

structure Taken where
  invocation : Invocation
  extras : List Text

namespace Taken

def nothing : Taken := ⟨⟨none, none, none, none, false, none⟩, []⟩

def extra (t : Taken) (a : Text) : Taken := { t with extras := t.extras ++ [a] }

def flag (t : Taken) : Switch → Except Stop Taken
  | .help => .error .help
  | .version => .error .version
  | .unordered => .ok { t with invocation := { t.invocation with isUnordered := true } }
  | _ => .ok t

def value (t : Taken) (s : Switch) (v : Given Text) : Except Stop Taken :=
  let i := t.invocation
  let taken := fun i => Except.ok { t with invocation := i }
  match s, v with
  | .url, v => taken { i with url := some v }
  | .config, v => taken { i with config := some (v.map Location.tidy) }
  | .logLevel, v => taken { i with logLevel := some v }
  | .command, v => taken { i with command := some (i.command.getD [] ++ [v]) }
  | .timeout, .nothing => taken { i with timeout := some .nothing }
  | .timeout, .value text =>
    match Numeral.double? text with
    | some x => taken { i with timeout := some (.value x) }
    | none => .error (.refused (.badNumber s text))
  | _, _ => .ok t

def use (t : Taken) : Use → Except Stop Taken
  | .extra a => .ok (t.extra a)
  | .flags switches => switches.foldlM flag t
  | .value before s v => (before.foldlM flag t).bind fun t => t.value s v
  | .refused r => .error (.refused r)

end Taken

/-- The invocation that arguments make. The first of several faults counts, but an ambiguous name
comes before all others. -/
def parse (arguments : List Text) : Except Stop Invocation :=
  match tokens arguments with
  | .error r => .error (.refused r)
  | .ok ts =>
    match (uses ts).foldlM Taken.use Taken.nothing with
    | .error stop => .error stop
    | .ok t =>
      if t.extras.isEmpty then .ok t.invocation else .error (.refused (.unknown t.extras))

end Invocation

end RemoteShell
