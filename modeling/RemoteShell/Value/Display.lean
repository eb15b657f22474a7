import RemoteShell.Value

set_option autoImplicit false

namespace RemoteShell.Value

mutual

def shown : Value → Text
  | .null => "None".toList
  | .bool true => "True".toList
  | .bool false => "False".toList
  | .int n => Text.ofInt n
  | .real x => x.write Double.plainNames
  | .text s => s.quoted
  | .list items => '[' :: shownItems items ++ [']']
  | .map fields => '\x7b' :: shownFields fields ++ ['\x7d']

def shownItems : List Value → Text
  | [] => []
  | [v] => shown v
  | v :: rest => shown v ++ ',' :: ' ' :: shownItems rest

def shownFields : List (Points × Value) → Text
  | [] => []
  | [(key, v)] => key.quoted ++ ':' :: ' ' :: shown v
  | (key, v) :: rest => key.quoted ++ ':' :: ' ' :: shown v ++ ',' :: ' ' :: shownFields rest

end

def display : Value → Text
  | .text s => s.toText
  | v => shown v

instance : Coe (List Text) (List Points) := ⟨List.map Points.ofText⟩

/-- Where a string with halves is shown, so is what stands for them. -/
instance : CoeHead Points Text := ⟨Points.toText⟩

instance : CoeHead Fields (Assoc Value) := ⟨Fields.toAssoc⟩

end RemoteShell.Value
