import SignedToken.Text.Case

/-!
# Media types

The type of a message's content: a type, a subtype and parameters. What matters of it is whether
the content is JSON.
-/

namespace SignedToken.Http

/-- A character of a type, a subtype, or the name or bare value of a parameter. -/
def isTokenChar (c : Char) : Bool := c.isAlphanum || "!#$%&'*+-.^_\x60|~".toList.contains c

def isMediaToken (cs : List Char) : Bool := !cs.isEmpty && cs.all isTokenChar

/-- A character between the quotes of a parameter's value. -/
def isQuotedChar (c : Char) : Bool := 0x20 ≤ c.toNat && c.toNat ≠ 0x7F

inductive ParameterState where
  /-- In front of a name; spaces are passed over. -/
  | start
  | name
  | value
  | bare
  /-- Behind an opening quote; the first character belongs to the value in any case. -/
  | opened
  | inQuotes
  /-- Behind a closing quote; spaces are passed over. -/
  | closed
deriving DecidableEq, Repr

def ParameterState.next : ParameterState → Char → Option ParameterState
  | .start, c => if c = ' ' then some .start else if isTokenChar c then some .name else none
  | .name, c => if isTokenChar c then some .name else if c = '=' then some .value else none
  | .value, c => if c = '"' then some .opened else if isTokenChar c then some .bare else none
  | .bare, c => if isTokenChar c then some .bare else if c = ';' then some .start else none
  | .opened, c => if isQuotedChar c then some .inQuotes else none
  | .inQuotes, c =>
    if c = '"' then some .closed else if isQuotedChar c then some .inQuotes else none
  | .closed, c => if c = ' ' then some .closed else if c = ';' then some .start else none

/-- Parameters may stop after a semicolon, after the equals sign or at the end of a value. -/
def ParameterState.mayEnd : ParameterState → Bool
  | .start | .value | .bare | .closed => true
  | _ => false

def areParameters (cs : List Char) : Bool :=
  match cs.foldlM ParameterState.next .start with
  | some state => state.mayEnd
  | none => false

/-- A subtype cut at its last plus sign, which may not be its first character: what is described,
and the format it is written in. -/
def splitSubtype (subtype : List Char) : List Char × Option (List Char) :=
  let reversed := subtype.reverse
  match reversed.dropWhile (· ≠ '+') with
  | _ :: before@(_ :: _) => (before.reverse, some (reversed.takeWhile (· ≠ '+')).reverse)
  | _ => (subtype, none)

def isJsonSubtype (subtype : List Char) : Bool :=
  let (main, suffix) := splitSubtype subtype
  main == "json".toList || suffix == some "json".toList

/-- Whether a media type says that the content is JSON; its case does not matter. -/
def isJson (cs : List Char) : Bool :=
  let essence := cs.takeWhile (· ≠ ';')
  let type := Text.lowerChars (essence.takeWhile (· ≠ '/'))
  let subtype := Text.lowerChars ((essence.dropWhile (· ≠ '/')).drop 1)
  type == "application".toList && isMediaToken subtype && isJsonSubtype subtype
    && areParameters ((cs.dropWhile (· ≠ ';')).drop 1)

end SignedToken.Http
