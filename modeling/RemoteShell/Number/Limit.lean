import RemoteShell.Text

set_option autoImplicit false

namespace RemoteShell.Numeral

def mostDigits : Nat := 4300

def longMessage (digits : Nat) : Text :=
  "Exceeds the limit (".toList ++ Text.ofNat mostDigits ++
    " digits) for integer string conversion: value has ".toList ++ Text.ofNat digits ++
    " digits; use sys.set_int_max_str_digits() to increase the limit".toList

end RemoteShell.Numeral
