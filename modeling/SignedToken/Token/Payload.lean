import SignedToken.Json.Outline

/-!
# Names in a payload

Issuer and audience as they stand in a payload that may hold anything. A token can name one party or
a list of them; in any other shape it names none, and none is then asked for.
-/

namespace SignedToken

/-- Whom a payload names. -/
structure Naming where
  issuer : Option Json
  audience : Option Json

namespace Naming

/-- A value of a time claim that the reader gets past: anything but a filled array or object. -/
def passesTime : Json → Bool
  | .arr (_ :: _) => false
  | .obj (_ :: _) => false
  | _ => true

/-- A value of the subject that the reader gets past: anything but an array or object. -/
def passesSubject : Json → Bool
  | .arr _ => false
  | .obj _ => false
  | _ => true

/-- The value of a name that occurs at most once. -/
def single? (name : String) (members : List (String × Json)) : Option (Option Json) :=
  match members.filter (·.1 == name) with
  | [] => some none
  | [(_, v)] => some (some v)
  | _ => none

/-- The claims `exp`, `nbf`, `sub`, `iss` and `aud` of a payload: the members of an object, or an
array of just these five. -/
def ofPayload? : Json → Option Naming
  | .obj members => do
    let expiry ← single? "exp" members
    let start ← single? "nbf" members
    let subject ← single? "sub" members
    let issuer ← single? "iss" members
    let audience ← single? "aud" members
    if expiry.all passesTime && start.all passesTime && subject.all passesSubject then
      return { issuer, audience }
    else none
  | .arr [expiry, start, subject, issuer, audience] =>
    if passesTime expiry && passesTime start && passesSubject subject then
      some { issuer := some issuer, audience := some audience }
    else none
  | _ => none

def texts? : List Json → Option (List String)
  | [] => some []
  | .str s :: rest => (texts? rest).map (s :: ·)
  | _ :: _ => none

/-- The parties that a value names, if it has the shape for it. -/
def parties? : Json → Option (List String)
  | .str s => some [s]
  | .arr items => texts? items
  | _ => none

/-- Whether `expected`, where there is one, is among the parties named, where there are any. -/
def agrees (expected : Option String) (value : Option Json) : Bool :=
  match expected, value.bind parties? with
  | some e, some parties => parties.contains e
  | _, _ => true

end Naming

end SignedToken
