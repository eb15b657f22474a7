import RemoteShell.Domain.Context
import RemoteShell.Domain.Direction
import RemoteShell.Domain.Punycode

set_option autoImplicit false

namespace RemoteShell.Domain

def dots : List Char := ['.', '。', '．', '｡']

def encodedLead : Text := "xn--".toList

def longestLabel : Nat := 63

def longestName : Nat := 253

/-- No hyphen at an end, nor two where an encoded label has them. -/
def hasPlainHyphens (label : Text) : Bool :=
  label.head? ≠ some '-' && label.getLast? ≠ some '-' && (label.drop 2).take 2 ≠ ['-', '-']

def isLabel (label : Text) : Bool :=
  !label.isEmpty && isComposed label && hasPlainHyphens label && !label.head?.any Text.isMark &&
    fitAfter [] label && isOneWay label

def isAsciiLabel (label : Text) : Bool :=
  if Text.hasPrefix encodedLead label then
    let encoded := label.drop encodedLead.length
    !encoded.isEmpty && encoded.getLast? ≠ some '-' && (Punycode.decode? encoded).any isLabel
  else isLabel label

def encodeLabel? (label : Text) : Option Text :=
  let encoded :=
    if label.all Punycode.isAscii then if isAsciiLabel label then some label else none
    else if isLabel label then some (encodedLead ++ Punycode.encode label)
    else none
  encoded.filter fun l => l.length ≤ longestLabel

def labels (name : Text) : List Text × Bool :=
  let labels := Text.cut '.' (name.map fun c => if dots.contains c then '.' else c)
  if labels.getLast? = some [] then (labels.dropLast, true) else (labels, false)

/-- A name in small letters as a name in ASCII. -/
def encode? (name : Text) : Option Text :=
  if longestName + 1 < name.length then none
  else
    let (labels, isEnded) := labels name
    (labels.mapM encodeLabel?).bind fun labels =>
      let encoded := Text.glue ['.'] labels
      if labels.isEmpty || longestName < encoded.length then none
      else some (if isEnded then encoded ++ ['.'] else encoded)

end RemoteShell.Domain
