import RemoteShell.Number.Limit
import RemoteShell.Text.Printable

set_option autoImplicit false

namespace RemoteShell.Literal

inductive Base where
  | decimal | hexadecimal | octal | binary | imaginary
  deriving DecidableEq, Repr

def Base.name : Base → Text
  | .decimal => "decimal".toList
  | .hexadecimal => "hexadecimal".toList
  | .octal => "octal".toList
  | .binary => "binary".toList
  | .imaginary => "imaginary".toList

inductive Escape where
  | short | middle | long | named
  deriving DecidableEq, Repr

inductive Problem where
  | badCharacter (c : Char)
  | zeroCharacter
  /-- A backslash outside quoted text that is not at the end of a line. -/
  | badContinuation
  | badNumeral (base : Base)
  | badDigit (digit : Char) (base : Base)
  | leadingZero
  | longNumeral (digits : Nat)
  | indented
  | unindented
  -- Brackets
  | notClosed (opening : Char)
  | unmatched (closing : Char)
  /-- The line is given if the opening bracket is not on that of the closing one. -/
  | mismatched (closing opening : Char) (line : Option Nat)
  | tooDeep
  -- Quoted texts
  | openText (isBlock : Bool) (line : Nat)
  | mixedTexts
  | octetsBeyondAscii
  /-- An escape from one place to another that lacks something. -/
  | cutEscape (escape : Escape) (start stop : Nat)
  | noCharacter (start stop : Nat)
  | unknownName (start stop : Nat)
  | badOctet (start : Nat)
  -- Parts
  | unexpected
  | missingComma
  | missingElse
  | missingColon
  | missingEntry
  | starredEntry
  /-- A name, or something else, before a single equals sign. -/
  | assignedName
  | assigned (what : Text)
  | assignedKeyword
  | target (what : Text)
  | namedWith (what : Text)
  | starredGroup
  | doubleStarredGroup
  | bareStar
  | oldCall (name : Text)
  | positionAfterKeyword (isUnpacked : Bool)
  | starAfterUnpacking
  | bareGenerator
  | starredGenerator
  | bareTuple
  | unpackedGenerator
  deriving DecidableEq, Repr

def codePoint (c : Char) : Text :=
  let digits := (Nat.toDigits 16 c.toNat).map Char.toUpper
  List.replicate (4 - digits.length) '0' ++ digits

def cannotDecode (start stop : Nat) (reason : Text) : Text :=
  "(unicode error) 'unicodeescape' codec can't decode bytes in position ".toList ++
    Text.ofNat start ++ '-' :: Text.ofNat (stop - 1) ++ ':' :: ' ' :: reason

def Escape.message : Escape → Text
  | .short => "truncated \\xXX escape".toList
  | .middle => "truncated \\uXXXX escape".toList
  | .long => "truncated \\UXXXXXXXX escape".toList
  | .named => "malformed \\N character escape".toList

def quotedChar (c : Char) : Text := ['\'', c, '\'']

def Problem.message : Problem → Text
  | .badCharacter c =>
    if Text.isPrintable c then
      "invalid character ".toList ++ quotedChar c ++ " (U+".toList ++ codePoint c ++ [')']
    else "invalid non-printable character U+".toList ++ codePoint c
  | .zeroCharacter => "source code string cannot contain null bytes".toList
  | .badContinuation => "unexpected character after line continuation character".toList
  | .badNumeral base => "invalid ".toList ++ base.name ++ " literal".toList
  | .badDigit digit base =>
    "invalid digit ".toList ++ quotedChar digit ++ " in ".toList ++ base.name ++ " literal".toList
  | .leadingZero =>
    "leading zeros in decimal integer literals are not permitted; ".toList ++
      "use an 0o prefix for octal integers".toList
  | .longNumeral digits =>
    Numeral.longMessage digits ++
      (" - Consider hexadecimal for huge integer literals to avoid decimal conversion " ++
        "limits.").toList
  | .indented => "unexpected indent".toList
  | .unindented => "unindent does not match any outer indentation level".toList
  | .notClosed opening => quotedChar opening ++ " was never closed".toList
  | .unmatched closing => "unmatched ".toList ++ quotedChar closing
  | .mismatched closing opening line =>
    "closing parenthesis ".toList ++ quotedChar closing ++
      " does not match opening parenthesis ".toList ++ quotedChar opening ++
      line.elim [] fun n => " on line ".toList ++ Text.ofNat n
  | .tooDeep => "too many nested parentheses".toList
  | .openText isBlock line =>
    "unterminated ".toList ++ (if isBlock then "triple-quoted ".toList else []) ++
      "string literal (detected at line ".toList ++ Text.ofNat line ++ [')']
  | .mixedTexts => "cannot mix bytes and nonbytes literals".toList
  | .octetsBeyondAscii => "bytes can only contain ASCII literal characters".toList
  | .cutEscape escape start stop => cannotDecode start stop escape.message
  | .noCharacter start stop => cannotDecode start stop "illegal Unicode character".toList
  | .unknownName start stop => cannotDecode start stop "unknown Unicode character name".toList
  | .badOctet start => "(value error) invalid \\x escape at position ".toList ++ Text.ofNat start
  | .unexpected => "invalid syntax".toList
  | .missingComma => "invalid syntax. Perhaps you forgot a comma?".toList
  | .missingElse => "expected 'else' after 'if' expression".toList
  | .missingColon => "':' expected after dictionary key".toList
  | .missingEntry => "expression expected after dictionary key and ':'".toList
  | .starredEntry => "cannot use a starred expression in a dictionary value".toList
  | .assignedName =>
    "invalid syntax. Maybe you meant '==' or ':=' instead of '='?".toList
  | .assigned what =>
    "cannot assign to ".toList ++ what ++ " here. Maybe you meant '==' instead of '='?".toList
  | .assignedKeyword =>
    "expression cannot contain assignment, perhaps you meant \"==\"?".toList
  | .target what => "cannot assign to ".toList ++ what
  | .namedWith what => "cannot use assignment expressions with ".toList ++ what
  | .starredGroup => "cannot use starred expression here".toList
  | .doubleStarredGroup => "cannot use double starred expression here".toList
  | .bareStar => "Invalid star expression".toList
  | .oldCall name =>
    "Missing parentheses in call to '".toList ++ name ++ "'. Did you mean ".toList ++ name ++
      "(...)?".toList
  | .positionAfterKeyword isUnpacked =>
    "positional argument follows keyword argument".toList ++
      if isUnpacked then " unpacking".toList else []
  | .starAfterUnpacking =>
    "iterable argument unpacking follows keyword argument unpacking".toList
  | .bareGenerator => "Generator expression must be parenthesized".toList
  | .starredGenerator => "iterable unpacking cannot be used in comprehension".toList
  | .bareTuple => "did you forget parentheses around the comprehension target?".toList
  | .unpackedGenerator => "dict unpacking cannot be used in dict comprehension".toList

end RemoteShell.Literal
