import RemoteShell.Console.Cells
import RemoteShell.Markup

set_option autoImplicit false

namespace RemoteShell.Console

def isSilent (c : Char) : Bool :=
  c.toNat = 0x07 || c.toNat = 0x08 || c.toNat = 0x0B || c.toNat = 0x0C || c.toNat = 0x0D

/-- The parts between tabs put together from a column on. A tab is one blank, and as many more as
there are up to the next multiple of eight. -/
def joinTabs (column : Nat) : List Text → Text
  | [] => []
  | [last] => last
  | part :: next :: rest =>
    let part := part ++ [' ']
    let column := column + width part
    let blanks := (8 - column % 8) % 8
    part ++ List.replicate blanks ' ' ++ joinTabs (column + blanks) (next :: rest)

def expandTabs (line : Text) : Text := joinTabs 0 (Text.cut '\t' line)

/-- A line cut before every character that follows a blank and is none. -/
def pieces : Text → List Text
  | [] => []
  | [c] => [[c]]
  | c :: d :: rest =>
    if Text.isBlank c && !Text.isBlank d then [c] :: pieces (d :: rest)
    else
      match pieces (d :: rest) with
      | [] => [[c]]
      | piece :: more => (c :: piece) :: more

/-- The words of a line with the blanks after them. Blanks at its start go with the first word, and
a line of blanks has none. -/
def words (line : Text) : List Text :=
  match pieces line with
  | first :: second :: rest =>
    if first.all Text.isBlank then (first ++ second) :: rest else first :: second :: rest
  | [only] => if only.all Text.isBlank then [] else [only]
  | [] => []

def fold (width used : Nat) : Text → List Text
  | [] => [[]]
  | c :: rest =>
    let fits := used + cellWidth c ≤ width
    match fold width (if fits then used + cellWidth c else cellWidth c) rest with
    | [] => [[c]]
    | row :: rows => if fits then (c :: row) :: rows else [] :: (c :: row) :: rows

/-- The rows that words fill after the row begun. A word goes on the row if it fits without its
blanks; one that fits on no row is folded, and the next word goes on after its last part. -/
def fill (width : Nat) (row : Text) : List Text → List Text
  | [] => [row]
  | word :: rest =>
    let solid := Console.width (Text.stripRight word)
    if Console.width row + solid ≤ width then fill width (row ++ word) rest
    else if width < solid then
      let parts := fold width 0 word
      (row :: parts.dropLast).filter (fun r => !r.isEmpty) ++
        fill width (parts.getLast?.getD []) rest
    else row :: fill width word rest

/-- A row without the trailing blanks that lie beyond the width. -/
def trimRow (width : Nat) (row : Text) : Text :=
  let blanks := (row.reverse.takeWhile Text.isBlank).length
  row.take (row.length - min blanks (row.length - width))

/-- As much of a row as the width holds; half of a wide character is a blank. -/
def cutAt (width : Nat) : Text → Text
  | [] => []
  | c :: rest =>
    if cellWidth c ≤ width then c :: cutAt (width - cellWidth c) rest
    else List.replicate width ' '

def clip (width : Nat) (row : Text) : Text :=
  if Console.width row ≤ width then row else cutAt width row

def rows (width : Nat) (line : Text) : List Text :=
  let filled := if (words line).isEmpty then [line] else fill width [] (words line)
  filled.map fun row => clip width (trimRow width row)

def layOut (width : Nat) (s : Text) : Text :=
  let lines := Text.cut '\n' (s.filter fun c => !isSilent c)
  (lines.flatMap fun line => rows width (expandTabs line)).flatMap fun row => row ++ ['\n']

/-- Whether a span is seen to. Where a text is laid out in one row without tabs all are; otherwise
only those that cover something of a line. -/
def isShown (text shown : Text) (span : Markup.Span) : Bool :=
  (shown.count '\n' = 1 && !text.contains '\t') ||
    ((text.take span.stop).drop span.start).any fun c => c ≠ '\n' && !isSilent c

def print (width : Nat) (markup : Text) : Except Markup.Fault Text := do
  let styled ← Markup.read markup
  let shown := layOut width styled.text
  for span in styled.spans do
    if isShown styled.text shown span then (Style.check span.style).mapError .style
  return shown

end RemoteShell.Console
