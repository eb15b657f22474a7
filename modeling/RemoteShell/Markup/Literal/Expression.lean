import RemoteShell.Markup.Literal.Problem

set_option autoImplicit false

namespace RemoteShell.Literal

inductive Compound where
  | operation | lambda | choice | assignment | generator | setGenerator | mapGenerator | yielded
  | awaited
  deriving DecidableEq, Repr

inductive Expression where
  | name (word : Text)
  | truth (word : Text)
  | ellipsis
  | number (isImaginary : Bool)
  | quoted (isFormatted : Bool)
  | tuple (items : List Expression)
  | set (items : List Expression)
  | map (parts : List Expression)
  | entry (key value : Expression)
  | unpacked (inner : Expression)
  | starred (inner : Expression)
  | attribute
  | call (function : Expression) (hasArguments : Bool)
  /-- The arguments of a call: how many have no name, and whether others follow. -/
  | arguments (positions : Nat) (hasNamed hasUnpacked : Bool)
  | signed (operand : Expression)
  | sum (left right : Expression)
  | comparison (isMembership : Bool) (left : Expression)
  | compound (kind : Compound)

def Compound.noun : Compound → Text
  | .operation => "expression".toList
  | .lambda => "lambda".toList
  | .choice => "conditional expression".toList
  | .assignment => "named expression".toList
  | .generator => "generator expression".toList
  | .setGenerator => "set comprehension".toList
  | .mapGenerator => "dict comprehension".toList
  | .yielded => "yield expression".toList
  | .awaited => "await expression".toList

def Expression.noun : Expression → Text
  | .name _ => "name".toList
  | .truth word => word
  | .ellipsis => "ellipsis".toList
  | .number _ => "literal".toList
  | .quoted isFormatted => if isFormatted then "f-string expression".toList else "literal".toList
  | .tuple _ => "tuple".toList
  | .set _ => "set display".toList
  | .map _ => "dict literal".toList
  | .entry .. => "dict literal".toList
  | .unpacked _ => "dict literal".toList
  | .starred _ => "starred".toList
  | .attribute => "attribute".toList
  | .call .. => "function call".toList
  | .arguments .. => "function call".toList
  | .signed _ => "expression".toList
  | .sum .. => "expression".toList
  | .comparison .. => "comparison".toList
  | .compound kind => kind.noun

inductive Refusal where
  | notLiteral
  | unpackedMap
  /-- A set or a map has a member or a key of a type that cannot be one. -/
  | unhashable (type : Text)
  deriving DecidableEq, Repr

def Refusal.message : Refusal → Text
  | .notLiteral => "malformed node or string".toList
  | .unpackedMap => "malformed node or string: None".toList
  | .unhashable type => "unhashable type: ".toList ++ '\'' :: type ++ ['\'']

def Expression.number? : Expression → Option Bool
  | .number isImaginary => some isImaginary
  | .signed (.number isImaginary) => some isImaginary
  | _ => none

def hashable : Option Text → Except Refusal Unit
  | some type => .error (.unhashable type)
  | none => .ok ()

mutual

/-- Checks an expression. The answer is the type that keeps its value out of sets, if there is
one. -/
def Expression.check : Expression → Except Refusal (Option Text)
  | .truth _ => .ok none
  | .ellipsis => .ok none
  | .number _ => .ok none
  | .quoted isFormatted => if isFormatted then .error .notLiteral else .ok none
  | .tuple items => checkTuple items
  | .set items => do
    checkMembers items
    return some "set".toList
  | .map parts => do
    checkEntries parts
    return some "dict".toList
  | .call (.name word) false =>
    if word = "set".toList then .ok (some "set".toList) else .error .notLiteral
  | .signed operand =>
    match operand with
    | .number _ => .ok none
    | _ => .error .notLiteral
  | .sum left right =>
    match left.number?, right with
    | some false, .number true => .ok none
    | _, _ => .error .notLiteral
  | _ => .error .notLiteral

def checkTuple : List Expression → Except Refusal (Option Text)
  | [] => .ok none
  | item :: rest => do
    let first ← item.check
    let later ← checkTuple rest
    return first.orElse fun _ => later

def checkMembers : List Expression → Except Refusal Unit
  | [] => .ok ()
  | item :: rest => do
    hashable (← item.check)
    checkMembers rest

def checkEntries : List Expression → Except Refusal Unit
  | [] => .ok ()
  | .entry key value :: rest => do
    let type ← key.check
    let _ ← value.check
    hashable type
    checkEntries rest
  | _ => .error .unpackedMap

end

end RemoteShell.Literal
