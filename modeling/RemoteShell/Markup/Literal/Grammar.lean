import RemoteShell.Markup.Literal.Reading

/-! The grammar of expressions. A rule has readers for what it accepts, and some have readers that
look for a problem, most of them only while the reading is to find out what is wrong. -/

set_option autoImplicit false

namespace RemoteShell.Literal

/-- How a rule is read where it stands in another. -/
abbrev Readers := Rule → Reading Expression

def compound (kind : Compound) : Reading Expression := pure (.compound kind)

def chained (operand : Reading Expression) (operators : List String)
    (join : Expression → Expression → Expression) : Reading Expression := do
  let first ← operand
  growing (fun left => do
    let _ ← choose (operators.map mark)
    return join left (← operand)) first

def operation (operand : Reading Expression) (operators : List String) : Reading Expression :=
  chained operand operators fun _ _ => .compound .operation

/-- The operators that compare; the answer says whether one asks for membership. -/
def comparing : Reading Bool :=
  choose
    [do let _ ← choose (["==", "!=", "<=", "<", ">=", ">"].map mark); return false,
      do let _ ← mark "not"; let _ ← mark "in"; return false,
      do let _ ← mark "in"; return true,
      do let _ ← mark "is"; let _ ← mark "not"; return false,
      do let _ ← mark "is"; return false]

def readComparison (self : Readers) : Reading Expression := do
  let left ← self .bitOr
  let more ← many do
    let isMembership ← comparing
    let _ ← self .bitOr
    return isMembership
  return match more with
    | [] => left
    | isMembership :: _ => .comparison isMembership left

def readFactor (self : Readers) : Reading Expression :=
  choose
    [do let _ ← choose [mark "+", mark "-"]; return .signed (← self .factor),
      do let _ ← mark "~"; let _ ← self .factor; compound .operation,
      self .power]

def readConditional (self : Readers) : Reading Expression := do
  let _ ← self .disjunction
  let _ ← mark "if"
  let _ ← self .disjunction
  let _ ← mark "else"
  let _ ← self .expression
  compound .choice

/-- Names that once stood before what they print or run. -/
def isOldStatement : Expression → Bool
  | .name word => word = "print".toList || word = "exec".toList
  | _ => false

def softWords : List String := ["_", "case", "match"]

def softWord : Reading Token :=
  wanted fun t => t.kind = .name && softWords.any fun w => w.toList == t.text

def lackingComma (self : Readers) : Reading Unit := do
  notFollowedBy (choose [do let _ ← kind .name; kind .quote, softWord])
  let first ← self .disjunction
  let _ ← self .bareExpression
  if isOldStatement first then pure ()
  else if ((← last?).map Token.depth).getD 0 = 0 then pure ()
  else raise .missingComma

def lackingElse (self : Readers) : Reading Unit := do
  let _ ← self .disjunction
  let _ ← mark "if"
  let _ ← self .disjunction
  notFollowedBy (choose [mark "else", mark ":"])
  raise .missingElse

def lackingCall (self : Readers) : Reading Unit := do
  let word ← name
  notFollowedBy (mark "(")
  let _ ← self .starExpressions
  if isOldStatement (.name word) then raise (.oldCall word) else pure ()

def readExpression (self : Readers) : Reading Expression :=
  choose
    [explain [lackingComma self, lackingElse self], explain [lackingCall self],
      readConditional self, self .disjunction, self .lambda]

def readRow (item : Reading Expression) : Reading Expression := do
  let first ← item
  let more ← many do
    let _ ← mark ","
    item
  let comma ← optional (mark ",")
  return if more.isEmpty && comma.isNone then first else .tuple (first :: more)

def readStarred (self : Readers) (rule : Rule) : Reading Expression :=
  choose [do let _ ← mark "*"; return .starred (← self .bitOr), self rule]

def readAssignment (self : Readers) : Reading Expression := do
  let _ ← kind .name
  let _ ← mark ":="
  let _ ← self .expression
  compound .assignment

def noneFollows : Reading Unit := notFollowedBy (choose [mark "=", mark ":="])

def misassigned (self : Readers) : List (Reading Unit) :=
  [do
    let left ← self .expression
    let _ ← mark ":="
    let _ ← self .expression
    raise (.namedWith left.noun),
  do
    let _ ← kind .name
    let _ ← mark "="
    let _ ← self .bitOr
    noneFollows
    raise .assignedName,
  do
    let isFree := choose ([self .tuple, self .generator].map Functor.discard ++
      ["True", "None", "False"].map fun w => Functor.discard (mark w))
    notFollowedBy isFree
    let left ← self .bitOr
    let _ ← mark "="
    let _ ← self .bitOr
    noneFollows
    raise (.assigned left.noun)]

def readPlain (self : Readers) : Reading Expression := do
  let e ← self .expression
  notFollowedBy (mark ":=")
  return e

def readNamed (self : Readers) : Reading Expression :=
  choose [self .assignment, explain (misassigned self), readPlain self]

def readTuple (self : Readers) : Reading Expression := do
  let _ ← mark "("
  let items ← optional do
    let first ← self .starNamed
    let _ ← mark ","
    let more ← optional (separated (self .starNamed) ",")
    if more.isSome then let _ ← optional (mark ",")
    return first :: more.getD []
  let _ ← mark ")"
  return .tuple (items.getD [])

def readStarredArgument (self : Readers) : Reading Expression :=
  choose
    [do let _ ← mark "*"; return .starred (← self .expression),
      do let _ ← mark "*"; raise .bareStar]

def readGroup (self : Readers) : Reading Expression :=
  choose
    [do
      let _ ← mark "("
      let e ← choose [self .yielded, self .named]
      let _ ← mark ")"
      return e,
    explain
      [do
        let _ ← mark "("
        let _ ← readStarredArgument self
        let _ ← mark ")"
        raise .starredGroup,
      do
        let _ ← mark "("
        let _ ← mark "**"
        let _ ← self .expression
        let _ ← mark ")"
        raise .doubleStarredGroup]]

def misgenerated (self : Readers) : List (Reading Unit) :=
  [do
    let _ ← choose [mark "(", mark "\x7b"]
    let _ ← readStarredArgument self
    let _ ← self .clauses
    raise .starredGenerator,
  do
    let _ ← mark "\x7b"
    let _ ← self .starNamed
    let _ ← mark ","
    let _ ← separated (self .starNamed) ","
    let _ ← optional (mark ",")
    let _ ← self .clauses
    raise .bareTuple,
  do
    let _ ← mark "\x7b"
    let _ ← self .starNamed
    let _ ← mark ","
    let _ ← self .clauses
    raise .bareTuple]

def readGenerator (self : Readers) : Reading Expression :=
  choose
    [do
      let _ ← mark "("
      let _ ← choose [self .assignment, readPlain self]
      let _ ← self .clauses
      let _ ← mark ")"
      compound .generator,
    explain (misgenerated self)]

def readSetGenerator (self : Readers) : Reading Expression :=
  choose
    [do
      let _ ← mark "\x7b"
      let _ ← self .named
      let _ ← self .clauses
      let _ ← mark "\x7d"
      compound .setGenerator,
    explain (misgenerated self)]

def readSet (self : Readers) : Reading Expression := do
  let _ ← mark "\x7b"
  let items ← separated (self .starNamed) ","
  let _ ← optional (mark ",")
  let _ ← mark "\x7d"
  return .set items

def readPair (self : Readers) : Reading Expression := do
  let key ← self .expression
  let _ ← mark ":"
  return .entry key (← self .expression)

def readEntry (self : Readers) : Reading Expression :=
  choose [do let _ ← mark "**"; return .unpacked (← self .bitOr), readPair self]

def starredValue (self : Readers) : Reading Unit := do
  let _ ← self .expression
  let _ ← mark ":"
  let _ ← mark "*"
  let _ ← self .bitOr
  raise .starredEntry

def lackingValue (self : Readers) : Reading Unit := do
  let _ ← self .expression
  let _ ← mark ":"
  followedBy (choose [mark "\x7d", mark ","])
  raise .missingEntry

def misentered (self : Readers) : List (Reading Unit) :=
  [do
    let _ ← separated (readEntry self) ","
    let _ ← mark ","
    choose
      [do
        let _ ← self .expression
        notFollowedBy (mark ":")
        raise .missingColon,
      starredValue self, lackingValue self],
  starredValue self, lackingValue self]

def readMap (self : Readers) : Reading Expression :=
  choose
    [do
      let _ ← mark "\x7b"
      let entries ← optional do
        let entries ← separated (readEntry self) ","
        let _ ← optional (mark ",")
        return entries
      let _ ← mark "\x7d"
      return .map (entries.getD []),
    do
      let _ ← mark "\x7b"
      search (misentered self)]

def readMapGenerator (self : Readers) : Reading Expression :=
  choose
    [do
      let _ ← mark "\x7b"
      let _ ← readPair self
      let _ ← self .clauses
      let _ ← mark "\x7d"
      compound .mapGenerator,
    explain
      [do
        let _ ← mark "\x7b"
        let _ ← mark "**"
        let _ ← self .bitOr
        let _ ← self .clauses
        let _ ← mark "\x7d"
        raise .unpackedGenerator]]

/-- The first part of an expression that nothing can be assigned to. In a membership test the part
before it counts. -/
def misplaced? : Expression → Option Expression
  | .tuple items => misplacedIn? items
  | .starred inner => misplaced? inner
  | .comparison isMembership left => if isMembership then misplaced? left else none
  | .name _ => none
  | .attribute => none
  | e => some e
where
  misplacedIn? : List Expression → Option Expression
    | [] => none
    | e :: rest => (misplaced? e).orElse fun _ => misplacedIn? rest

def mistargeted (self : Readers) : Reading Unit := do
  let _ ← optional (mark "async")
  let _ ← mark "for"
  let targets ← self .starExpressions
  match misplaced? targets with
  | some e => raise (.target e.noun)
  | none => pure ()

/-- Once it is clear what a clause goes through, it has to be whole. -/
def readClause (self : Readers) : Reading Unit := do
  let isBegun ← optional do
    let _ ← optional (mark "async")
    let _ ← mark "for"
    let _ ← self .targets
    mark "in"
  if isBegun.isSome then
    let _ ← self .disjunction
    let _ ← many do
      let _ ← mark "if"
      self .disjunction
  else explain [mistargeted self]

def readClauses (self : Readers) : Reading Expression := do
  readClause self
  let _ ← many (readClause self)
  compound .generator

def readTargets (self : Readers) : Reading Expression := readRow (self .target)

def goesOn : Reading Unit := followedBy (choose [mark "(", mark "."])

def readCall (self : Readers) (function : Expression) : Reading Expression := do
  let _ ← mark "("
  let arguments ← optional (self .arguments)
  let _ ← mark ")"
  return .call function arguments.isSome

def readTrailer (self : Readers) (e : Expression) : Reading Expression :=
  choose
    [do let _ ← mark "."; let _ ← kind .name; return .attribute,
      do let _ ← self .generator; return .call e true,
      readCall self e]

def readTarget (self : Readers) : Reading Expression :=
  choose
    [do
      let _ ← mark "*"
      notFollowedBy (mark "*")
      return .starred (← self .target),
    do
      let first ← self .atom
      goesOn
      let _ ← growing (fun e => do
        let e ← readTrailer self e
        goesOn
        return e) first
      let _ ← mark "."
      let _ ← kind .name
      notFollowedBy goesOn
      return .attribute,
    do return .name (← name),
    do
      let _ ← mark "("
      let inner ← optional (self .targets)
      let _ ← mark ")"
      return inner.getD (.tuple [])]

def readPosition (self : Readers) : Reading Expression :=
  choose
    [readStarredArgument self,
      do
        let e ← choose [self .assignment, readPlain self]
        notFollowedBy (mark "=")
        return e]

def misnamed (self : Readers) : List (Reading Unit) :=
  [do
    let word ← choose (["True", "False", "None"].map mark)
    let _ ← mark "="
    raise (.target word.text),
  do
    let _ ← kind .name
    let _ ← mark "="
    let _ ← self .expression
    let _ ← self .clauses
    raise .assignedName,
  do
    notFollowedBy do
      let _ ← kind .name
      mark "="
    let _ ← self .expression
    let _ ← mark "="
    raise .assignedKeyword]

def readKeyword (self : Readers) : Reading Expression := do
  let _ ← kind .name
  let _ ← mark "="
  let _ ← self .expression
  return .arguments 0 true false

def readStarredKeyword (self : Readers) : Reading Expression :=
  choose
    [explain (misnamed self), readKeyword self,
      do let _ ← readStarredArgument self; return .arguments 1 false false]

def readUnpackedKeyword (self : Readers) : Reading Expression :=
  choose
    [explain (misnamed self), readKeyword self,
      do
        let _ ← mark "**"
        let _ ← self .expression
        return .arguments 0 true true]

def gathered (parts : List Expression) : Expression :=
  parts.foldl (fun all part =>
    match all, part with
    | .arguments m a b, .arguments n c d => .arguments (m + n) (a || c) (b || d)
    | .arguments m a b, _ => .arguments (m + 1) a b
    | all, _ => all) (.arguments 0 false false)

def readKeywords (self : Readers) : Reading Expression :=
  choose
    [do
      let first ← separated (readStarredKeyword self) ","
      let _ ← mark ","
      let more ← separated (readUnpackedKeyword self) ","
      return gathered (first ++ more),
    do return gathered (← separated (readStarredKeyword self) ","),
    do return gathered (← separated (readUnpackedKeyword self) ",")]

def readPositions (self : Readers) : Reading Expression :=
  choose
    [do
      let first ← separated (readPosition self) ","
      let more ← optional do
        let _ ← mark ","
        self .keywords
      return gathered (first ++ more.toList),
    self .keywords]

def misordered (self : Readers) : List (Reading Unit) :=
  [do
    let _ ← self .positions
    let _ ← mark ","
    let _ ← mark "*"
    raise .starAfterUnpacking,
  do
    let _ ← self .expression
    let _ ← self .clauses
    let _ ← mark ","
    let _ ← optional (choose
      [self .positions,
        do
          let _ ← self .expression
          self .clauses])
    raise .bareGenerator,
  do
    let _ ← kind .name
    let _ ← mark "="
    let _ ← self .expression
    let _ ← self .clauses
    raise .assignedName,
  do
    let arguments ← self .positions
    let _ ← self .clauses
    match arguments with
    | .arguments positions _ _ => if 1 < positions then raise .bareGenerator else pure ()
    | _ => pure (),
  do
    let _ ← self .positions
    let _ ← mark ","
    let _ ← self .expression
    let _ ← self .clauses
    raise .bareGenerator,
  do
    let arguments ← self .positions
    let _ ← mark ","
    let _ ← self .positions
    match arguments with
    | .arguments _ _ isUnpacked => raise (.positionAfterKeyword isUnpacked)
    | _ => pure ()]

def readArguments (self : Readers) : Reading Expression :=
  choose
    [do
      let arguments ← self .positions
      let _ ← optional (mark ",")
      followedBy (mark ")")
      return arguments,
    explain (misordered self)]

def readPrimary (self : Readers) : Reading Expression := do
  growing (readTrailer self) (← self .atom)

def readNumber : Reading Expression := do
  let t ← wanted fun t => t.kind = .number false || t.kind = .number true
  let digits := t.text.filter (· ≠ '_')
  if digits.all Text.isDigit && t.text.head? ≠ some '0' && Numeral.mostDigits < digits.length then
    raise (.longNumeral digits.length)
  else return .number (t.kind = .number true)

def readQuotes : Reading Expression := do
  let first ← kind .quote
  let more ← many (kind .quote)
  let row := (first :: more).map fun t => Quote.ofText t.text
  match Quote.rowProblem? ((row.head?.map Quote.isOctets).getD false) row with
  | some problem => raise problem
  | none => return .quoted (row.any Quote.isFormatted)

def readAtom (self : Readers) : Reading Expression :=
  choose
    [do return .name (← name),
      do return .truth (← choose (["True", "False", "None"].map mark)).text,
      self .quotes,
      readNumber,
      do
        followedBy (mark "(")
        choose [self .tuple, self .group, self .generator],
      do
        followedBy (mark "\x7b")
        choose [self .map, self .set, self .mapGenerator, self .setGenerator],
      do let _ ← mark "..."; return .ellipsis]

def readParameter (self : Readers) : Reading Unit :=
  choose
    [do
      let _ ← kind .name
      let _ ← optional do
        let _ ← mark "="
        self .expression,
    do let _ ← mark "**"; let _ ← kind .name,
    do let _ ← mark "*"; let _ ← optional (kind .name),
    do let _ ← mark "/"]

def readLambda (self : Readers) : Reading Expression := do
  let _ ← mark "lambda"
  let parameters ← optional (separated (readParameter self) ",")
  if parameters.isSome then let _ ← optional (mark ",")
  let _ ← mark ":"
  let _ ← self .expression
  compound .lambda

def readYielded (self : Readers) : Reading Expression :=
  choose
    [do
      let _ ← mark "yield"
      let _ ← mark "from"
      let _ ← self .expression
      compound .yielded,
    do
      let _ ← mark "yield"
      let _ ← optional (self .starExpressions)
      compound .yielded]

def readRule (self : Readers) : Rule → Reading Expression
  | .expressions => readRow (self .expression)
  | .expression => readExpression self
  | .bareExpression =>
    withoutExplaining (choose [readConditional self, self .disjunction, self .lambda])
  | .starExpressions => readRow (self .starExpression)
  | .starExpression => readStarred self .expression
  | .starNamed => readStarred self .named
  | .named => readNamed self
  | .assignment => readAssignment self
  | .disjunction => operation (self .conjunction) ["or"]
  | .conjunction => operation (self .inversion) ["and"]
  | .inversion =>
    choose [do let _ ← mark "not"; let _ ← self .inversion; compound .operation, self .comparison]
  | .comparison => readComparison self
  | .bitOr => operation (self .bitXor) ["|"]
  | .bitXor => operation (self .bitAnd) ["^"]
  | .bitAnd => operation (self .shift) ["&"]
  | .shift => operation (self .sum) ["<<", ">>"]
  | .sum => chained (self .term) ["+", "-"] .sum
  | .term => operation (self .factor) ["*", "/", "//", "%", "@"]
  | .factor => readFactor self
  | .power =>
    choose
      [do let _ ← self .awaited; let _ ← mark "**"; let _ ← self .factor; compound .operation,
        self .awaited]
  | .awaited =>
    choose [do let _ ← mark "await"; let _ ← self .primary; compound .awaited, self .primary]
  | .primary => readPrimary self
  | .atom => readAtom self
  | .quotes => readQuotes
  | .tuple => readTuple self
  | .group => readGroup self
  | .generator => readGenerator self
  | .map => readMap self
  | .set => readSet self
  | .mapGenerator => readMapGenerator self
  | .setGenerator => readSetGenerator self
  | .lambda => readLambda self
  | .yielded => readYielded self
  | .clauses => readClauses self
  | .targets => readTargets self
  | .target => readTarget self
  | .arguments => readArguments self
  | .positions => readPositions self
  | .keywords => readKeywords self

/-- Rules read one in another to some depth. -/
def reader : Nat → Readers
  | 0, _ => failure
  | n + 1, rule => remembered rule (readRule (reader n) rule)

/-- No token needs more rules one in another than there are kinds of rules. -/
def depthFor (tokens : Nat) : Nat := 40 * (tokens + 2)

def whole (tokens : Nat) : Reading Expression := do
  let e ← reader (depthFor tokens) .expressions
  let _ ← many (kind .lineEnd)
  let _ ← kind .stop
  return e

end RemoteShell.Literal
