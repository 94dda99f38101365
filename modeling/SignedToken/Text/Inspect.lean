import SignedToken.Text.Quoted

/-!
# Values as a developer sees them

The layout of a value's parts on one line: a record by the names of its fields, an optional value by
whether it is there.
-/

namespace SignedToken.Text

def commaList (parts : List String) : String := ", ".intercalate parts

def inBraces (content : String) : String := "\x7b" ++ content ++ "\x7d"

/-- A record; one that does not show all of its fields ends in two points. -/
def inspectRecord (name : String) (fields : List (String × String)) (complete : Bool) : String :=
  let shown := fields.map fun (field, value) => field ++ ": " ++ value
  let shown := if complete then shown else shown ++ [".."]
  name ++ " " ++ inBraces (" " ++ commaList shown ++ " ")

def inspectOption : Option String → String
  | none => "None"
  | some value => "Some(" ++ value ++ ")"

def inspectBool (b : Bool) : String := if b then "true" else "false"

def redacted : String := quoted "<redacted>"

end SignedToken.Text
