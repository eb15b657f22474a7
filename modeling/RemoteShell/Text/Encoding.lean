import RemoteShell.Text

set_option autoImplicit false

namespace RemoteShell

abbrev Octets := List UInt8

inductive Order where
  | high
  | low
  deriving DecidableEq, Repr

inductive Encoding where
  | utf8
  | utf16 (order : Order)
  | utf32 (order : Order)
  deriving DecidableEq, Repr

def Order.name : Order → Text
  | .high => "be".toList
  | .low => "le".toList

namespace Encoding

def name : Encoding → Text
  | .utf8 => "utf-8".toList
  | .utf16 order => "utf-16-".toList ++ order.name
  | .utf32 order => "utf-32-".toList ++ order.name

inductive Reason where
  | badStart
  | badContinuation
  | cutShort
  | truncated
  | beyondLast
  deriving DecidableEq, Repr

def Reason.message : Reason → Text
  | .badStart => "invalid start byte".toList
  | .badContinuation => "invalid continuation byte".toList
  | .cutShort => "unexpected end of data".toList
  | .truncated => "truncated data".toList
  | .beyondLast => "code point not in range(0x110000)".toList

structure Fault where
  encoding : Encoding
  octet : Nat
  index : Nat
  count : Nat
  reason : Reason
  deriving DecidableEq, Repr

def Fault.message (f : Fault) : Text :=
  '\'' :: f.encoding.name ++ "' codec can't decode ".toList ++
    (if f.count = 1 then
      "byte 0x".toList ++ Text.hexDigits 2 f.octet ++ " in position ".toList ++ Text.ofNat f.index
    else
      "bytes in position ".toList ++ Text.ofNat f.index ++ '-' ::
        Text.ofNat (f.index + f.count - 1))
    ++ ':' :: ' ' :: f.reason.message

end Encoding

end RemoteShell
