import SignedToken.Json.Printer
import SignedToken.Text.Inspect

/-!
# JSON values as a developer sees them

Every value is shown with its kind.
-/

namespace SignedToken.Json

open Text (commaList inBraces quoted inspectBool)

mutual

def inspect : Json → String
  | .null => "Null"
  | .bool b => "Bool(" ++ inspectBool b ++ ")"
  | .int n => "Number(" ++ toString n.val ++ ")"
  | .float x => "Number(" ++ String.ofList (floatText x) ++ ")"
  | .str s => "String(" ++ Text.quoted s ++ ")"
  | .arr items => "Array [" ++ commaList (inspectItems items) ++ "]"
  | .obj members => "Object " ++ inBraces (commaList (inspectMembers members))

def inspectItems : List Json → List String
  | [] => []
  | v :: rest => inspect v :: inspectItems rest

def inspectMembers : List (String × Json) → List String
  | [] => []
  | (k, v) :: rest => (Text.quoted k ++ ": " ++ inspect v) :: inspectMembers rest

end

def Object.inspect (o : Object) : String := inBraces (commaList (inspectMembers o.members))

end SignedToken.Json
