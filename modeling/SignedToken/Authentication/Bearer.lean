import SignedToken.Http
import SignedToken.Text.Blank

/-!
# Bearer credentials

The value of an authorization header: the scheme `bearer` in any case, a space, and one word of
three segments. Nothing is decoded here.
-/

namespace SignedToken.Bearer

def isAsciiBlank (c : Char) : Bool :=
  c == ' ' || c == '\t' || c == '\n' || c == '\x0c' || c == '\r'

/-- A word with two dots. -/
def isCompact (cs : List Char) : Bool := cs.count '.' == 2 && !cs.any isAsciiBlank

def tokenChars? (cs : List Char) : Option (List Char) :=
  let value := Text.trimChars cs
  match value.dropWhile (· ≠ ' ') with
  | [] => none
  | _ :: credential =>
    let scheme := Text.lowerChars (value.takeWhile (· ≠ ' '))
    let token := Text.trimStart credential
    if scheme = "bearer".toList ∧ isCompact token then some token else none

def token? (value : List UInt8) : Option String :=
  ((Http.visibleText? value).bind tokenChars?).map String.ofList

end SignedToken.Bearer
