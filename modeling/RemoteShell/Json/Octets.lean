import RemoteShell.Text.Utf8
import RemoteShell.Text.Wide

set_option autoImplicit false

namespace RemoteShell.Json

/-- The encoding of a document, and how many octets its byte order mark has. -/
def encoding (octets : Octets) : Encoding × Nat :=
  match octets with
  | 0x00 :: 0x00 :: 0xFE :: 0xFF :: _ => (.utf32 .high, 4)
  | 0xFF :: 0xFE :: 0x00 :: 0x00 :: _ => (.utf32 .low, 4)
  | 0xFE :: 0xFF :: _ => (.utf16 .high, 2)
  | 0xFF :: 0xFE :: _ => (.utf16 .low, 2)
  | 0xEF :: 0xBB :: 0xBF :: _ => (.utf8, 3)
  | a :: b :: c :: d :: _ =>
    if a = 0 then (if b = 0 then .utf32 .high else .utf16 .high, 0)
    else if b = 0 then (if c = 0 ∧ d = 0 then .utf32 .low else .utf16 .low, 0)
    else (.utf8, 0)
  | [a, b] => (if a = 0 then .utf16 .high else if b = 0 then .utf16 .low else .utf8, 0)
  | _ => (.utf8, 0)

/-- Halves of pairs in three octets each are let through, as the character that replaces them. -/
def replaceHalves : Octets → Octets
  | a :: b :: c :: rest =>
    if a = 0xED ∧ 0xA0 ≤ b ∧ b < 0xC0 ∧ 0x80 ≤ c ∧ c < 0xC0 then
      0xEF :: 0xBF :: 0xBD :: replaceHalves rest
    else a :: replaceHalves (b :: c :: rest)
  | rest => rest

def decode (octets : Octets) : Except Encoding.Fault Text :=
  match encoding octets with
  | (.utf8, mark) => Utf8.strict (replaceHalves (octets.drop mark))
  | (.utf16 order, mark) => Wide.utf16 order mark (octets.drop mark)
  | (.utf32 order, mark) => Wide.utf32 order mark (octets.drop mark)

end RemoteShell.Json
