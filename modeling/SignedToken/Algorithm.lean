import SignedToken.Digest.Sha2
import SignedToken.Json.Basic

/-!
# Signature algorithms

The algorithms a header can name. Only those of the HMAC family can sign and verify here.
-/

namespace SignedToken

inductive Algorithm where
  | hs256
  | hs384
  | hs512
  | es256
  | es384
  | rs256
  | rs384
  | rs512
  | ps256
  | ps384
  | ps512
  | edDsa
deriving DecidableEq, Repr, Inhabited

namespace Algorithm

def name : Algorithm → String
  | .hs256 => "HS256"
  | .hs384 => "HS384"
  | .hs512 => "HS512"
  | .es256 => "ES256"
  | .es384 => "ES384"
  | .rs256 => "RS256"
  | .rs384 => "RS384"
  | .rs512 => "RS512"
  | .ps256 => "PS256"
  | .ps384 => "PS384"
  | .ps512 => "PS512"
  | .edDsa => "EdDSA"

def all : List Algorithm :=
  [.hs256, .hs384, .hs512, .es256, .es384, .rs256, .rs384, .rs512, .ps256, .ps384, .ps512, .edDsa]

def ofName? (s : String) : Option Algorithm := all.find? (·.name == s)

def hmac? : Algorithm → Option Sha2.Size
  | .hs256 => some .bits256
  | .hs384 => some .bits384
  | .hs512 => some .bits512
  | _ => none

def isElliptic : Algorithm → Bool
  | .es256 | .es384 | .edDsa => true
  | _ => false

def ofJson? (v : Json) : Option Algorithm := v.bareName?.bind ofName?

end Algorithm

end SignedToken
