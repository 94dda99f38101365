import SignedToken.Json.Printer
import SignedToken.Json.Reader
import SignedToken.Text.Quoted

/-!
# Values of the wrong type

What is said of a value that stands where another type is expected.
-/

namespace SignedToken.Json

inductive Expectation where
  | text
  | signed64
  | unsigned8
  | map
  | sequence
  | packed
deriving DecidableEq, Repr

def Expectation.description : Expectation → String
  | .text => "a string"
  | .signed64 => "i64"
  | .unsigned8 => "u8"
  | .map => "a map"
  | .sequence => "a sequence"
  | .packed => "raw value"

def description : Json → String
  | .null => "null"
  | .bool b => s!"boolean `{b}`"
  | .int n => s!"integer `{n.val}`"
  | .float x => s!"floating point `{String.ofList (floatText x)}`"
  | .str s => s!"string {Text.quoted s}"
  | .arr _ => "sequence"
  | .obj _ => "map"

inductive Mismatch where
  /-- A value of another type. -/
  | type (found : Json) (expected : Expectation)
  /-- A whole number that the expected type has no room for. -/
  | range (found : Json.Integer) (expected : Expectation)
  | missingField (name : String)
  /-- A packed text that cannot be read. Its diagnosis is open. -/
  | unreadable
  /-- A packed object with other members. -/
  | length (found : Nat)

def Mismatch.message : Mismatch → String
  | .type found expected => s!"invalid type: {found.description}, expected {expected.description}"
  | .range found expected =>
    s!"invalid value: {(Json.int found).description}, expected {expected.description}"
  | .missingField name => s!"missing field `{name}`"
  | .unreadable => "JSON error"
  | .length found => s!"invalid length {found}, expected fewer elements in map"

/-! ## Typed reading -/

def asText? : Json → Except Mismatch String
  | .str s => .ok s
  | v => .error (.type v .text)

def asInt64? : Json → Except Mismatch Int64
  | .int n =>
    if n.val < 9223372036854775808 then .ok (.ofInt n.val) else .error (.range n .signed64)
  | v => .error (.type v .signed64)

def asByte? : Json → Except Mismatch UInt8
  | .int n => if 0 ≤ n.val ∧ n.val < 256 then .ok (.ofInt n.val) else .error (.range n .unsigned8)
  | v => .error (.type v .unsigned8)

mutual

/-- A value of any type, whose objects have their names in order. Other members of a packed object
show once its text is read. -/
def asValue? : Json → Except Mismatch Json
  | .arr items => (asValues? items).map .arr
  | .obj members =>
    match packed? members with
    | some (.str s, rest) =>
      match read? (Utf8.bytes s) with
      | none => .error .unreadable
      | some v => if rest.isEmpty then .ok v.canonical else .error (.length members.length)
    | some (v, _) => .error (.type v .packed)
    | none => (asMembers? members).map .obj
  | .null => .ok .null
  | .bool b => .ok (.bool b)
  | .int n => .ok (.int n)
  | .float x => .ok (.float x)
  | .str s => .ok (.str s)

def asValues? : List Json → Except Mismatch (List Json)
  | [] => .ok []
  | v :: rest => do return (← asValue? v) :: (← asValues? rest)

def asMembers? : List (String × Json) → Except Mismatch (List (String × Json))
  | [] => .ok []
  | (k, v) :: rest => do return (k, ← asValue? v) :: (← asMembers? rest)

end

end SignedToken.Json
