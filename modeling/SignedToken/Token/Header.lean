import SignedToken.Algorithm
import SignedToken.Json.Outline
import SignedToken.Json.Printer

/-!
# Token headers

A header names the algorithm and, usually, the type of the token. A token is looked at through one
of two readers: `read?` takes those two and leaves the rest alone, `readStrictly?` also wants every
other registered parameter to be well-formed.
-/

namespace SignedToken

structure Header where
  algorithm : Algorithm
  type : Option String
deriving DecidableEq

namespace Header

def tokenType : String := "JWT"

def ofAlgorithm (algorithm : Algorithm) : Header := ⟨algorithm, some tokenType⟩

/-- The algorithm comes first; a missing type is left out. -/
def toJson (h : Header) : Json :=
  .obj (("alg", .str h.algorithm.name) ::
    match h.type with
    | some t => [("typ", .str t)]
    | none => [])

/-! ## Parameters -/

/-- A text, or null for none. -/
def optionalText? : Json → Option (Option String)
  | .null => some none
  | .str s => some (some s)
  | _ => none

def isOptionalText (v : Json) : Bool := (optionalText? v).isSome

def isText : Json → Bool
  | .str _ => true
  | _ => false

def isOptionalTextList : Json → Bool
  | .null => true
  | .arr items => items.all isText
  | _ => false

/-! ## Keys -/

/-- The algorithms that a key can be meant for. -/
def keyAlgorithmNames : List String :=
  Algorithm.all.map Algorithm.name ++ ["RSA1_5", "RSA-OAEP", "RSA-OAEP-256"]

def curveNames : List String := ["P-256", "P-384", "P-521", "Ed25519"]

def isOneOf (names : List String) (v : Json) : Bool := v.bareName?.any names.contains

/-- An algorithm that a key can be meant for. Beside its name an empty object may stand instead of
null. -/
def isKeyAlgorithm : Json → Bool
  | .obj [(name, .obj [])] => keyAlgorithmNames.contains name
  | v => isOneOf keyAlgorithmNames v

def valuesOf (name : String) (members : List (String × Json)) : List Json :=
  (members.filter (·.1 == name)).map Prod.snd

/-- There is one member called `name`, and its value passes. -/
def hasField (members : List (String × Json)) (name : String) (ok : Json → Bool) : Bool :=
  match valuesOf name members with
  | [v] => ok v
  | _ => false

/-- There is at most one member called `name`, and its value passes. -/
def mayHaveField (members : List (String × Json)) (name : String) (ok : Json → Bool) : Bool :=
  match valuesOf name members with
  | [] => true
  | [v] => ok v
  | _ => false

/-- What a key of each kind consists of. -/
def hasKeyMaterial (members : List (String × Json)) : Bool :=
  let text (name : String) := hasField members name isText
  let kind (name : String) := hasField members "kty" (isOneOf [name])
  let curve := hasField members "crv" (isOneOf curveNames)
  (kind "EC" && curve && text "x" && text "y")
    || (kind "RSA" && text "n" && text "e")
    || (kind "oct" && text "k")
    || (kind "OKP" && curve && text "x")

def isKey : Json → Bool
  | .obj members =>
    mayHaveField members "use" isOptionalText
      && mayHaveField members "key_ops" isOptionalTextList
      && mayHaveField members "alg" (fun v => v matches .null || isKeyAlgorithm v)
      && mayHaveField members "kid" isOptionalText
      && mayHaveField members "x5u" isOptionalText
      && mayHaveField members "x5c" isOptionalTextList
      && mayHaveField members "x5t" isOptionalText
      && mayHaveField members "x5t#S256" isOptionalText
      && hasKeyMaterial members
  | _ => false

def isOptionalKey (v : Json) : Bool := v matches .null || isKey v

/-! ## Reading -/

/-- An object, or an array of the algorithm and the type, which may be missing. -/
def read? (text : List UInt8) : Option Header := do
  let o ← Json.outline? text
  let algorithm ← o.field? 0 "alg" none Algorithm.ofJson?
  let type ← o.field? 1 "typ" (some none) optionalText?
  if o.hasAtMost 2 then return ⟨algorithm, type⟩ else none

/-- The other parameters with their places in an array, and what their values have to be. -/
def otherParameters : List (Nat × String × (Json → Bool)) :=
  [(2, "cty", isOptionalText), (3, "jku", isOptionalText), (4, "jwk", isOptionalKey),
    (5, "kid", isOptionalText), (6, "x5u", isOptionalText), (7, "x5c", isOptionalTextList),
    (8, "x5t", isOptionalText), (9, "x5t#S256", isOptionalText)]

/-- An object, or an array of all ten parameters, the type before the algorithm. -/
def readStrictly? (text : List UInt8) : Option Header := do
  let o ← Json.outline? text
  let missing {α : Type} (v : α) : Option α := if o matches .members _ then some v else none
  let type ← o.field? 0 "typ" (missing none) optionalText?
  let algorithm ← o.field? 1 "alg" none Algorithm.ofJson?
  let wellFormed := otherParameters.all fun (position, name, ok) =>
    (o.field? position name (missing ()) fun v => if ok v then some () else none).isSome
  if wellFormed && o.hasAtMost 10 then return ⟨algorithm, type⟩ else none

end Header

end SignedToken
