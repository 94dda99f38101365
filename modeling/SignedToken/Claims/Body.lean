import SignedToken.Claims.Reading
import SignedToken.Token.Error

/-!
# Typed payloads

The caller's payload read as a value of a given type. Entries are read in the order of their names,
so that the first wrong one is reported; missing ones are reported after that.
-/

namespace SignedToken

def Claims.bodyAs {α : Type} (read : Json → Except Json.Mismatch α) (c : Claims) :
    Except TokenError α :=
  (read c.body.toJson).mapError fun m => .claimsInvalid m.message

namespace Json

def asTexts? : Json → Except Mismatch (List String)
  | .arr items => items.mapM asText?
  | v => .error (.type v .sequence)

def asInt64Map? : Json → Except Mismatch (List (String × Int64))
  | .obj members => members.mapM fun (k, v) => do return (k, ← v.asInt64?)
  | v => .error (.type v .map)

end Json

structure Profile where
  name : String
  age : UInt8
deriving DecidableEq, Repr

namespace Profile

/-- Takes in one entry; names other than the two are passed over. -/
def readEntry (found : Option String × Option UInt8) (entry : String × Json) :
    Except Json.Mismatch (Option String × Option UInt8) :=
  if entry.1 = "name" then do return (some (← entry.2.asText?), found.2)
  else if entry.1 = "age" then do return (found.1, some (← entry.2.asByte?))
  else .ok found

def ofJson? : Json → Except Json.Mismatch Profile
  | .obj members => do
    match ← members.foldlM readEntry (none, none) with
    | (none, _) => throw (.missingField "name")
    | (_, none) => throw (.missingField "age")
    | (some name, some age) => return { name, age }
  | v => .error (.type v .map)

def toJson (p : Profile) : Json :=
  .obj [("name", .str p.name), ("age", Json.ofInt64 (.ofInt p.age.toNat))]

end Profile

end SignedToken
