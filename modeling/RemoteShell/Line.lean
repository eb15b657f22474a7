import RemoteShell.Text

/-! Cutting a line into tokens. A token is bare, up to the next space, or quoted when it starts with
a quote, up to the next such quote. Inside quotes a backslash keeps the character after it from
closing, and both stay in the token. -/

set_option autoImplicit false

namespace RemoteShell.Line

def isQuote (c : Char) : Bool := c = '\'' || c = '"'

/-- Where a scan stands between two characters. What was read of a token is in reverse. -/
inductive Mode where
  | between
  | bare (word : Text)
  | quoted (quote : Char) (body : Text)

def scan : Mode → Text → Except Text (List Text)
  | .between, [] => .ok []
  | .between, c :: rest =>
    if c = ' ' then scan .between rest
    else if isQuote c then scan (.quoted c []) rest
    else scan (.bare [c]) rest
  | .bare word, [] => .ok [word.reverse]
  | .bare word, c :: rest =>
    if c = ' ' then (scan .between rest).map (word.reverse :: ·) else scan (.bare (c :: word)) rest
  | .quoted quote body, [] => .error (quote :: body.reverse)
  | .quoted quote body, [c] =>
    if c = quote then .ok [body.reverse] else .error (quote :: (c :: body).reverse)
  | .quoted quote body, c :: d :: rest =>
    if c = quote then (scan .between (d :: rest)).map (body.reverse :: ·)
    else if c = '\\' then scan (.quoted quote (d :: c :: body)) rest
    else scan (.quoted quote (c :: body)) (d :: rest)

def tokens (line : Text) : Except Text (List Text) := scan .between (Text.strip line)

end RemoteShell.Line
