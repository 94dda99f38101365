/-!
# Letter case

Texts with the letters of ASCII in one case; all other characters stay as they are.
-/

namespace SignedToken.Text

def lowerChars (cs : List Char) : List Char := cs.map Char.toLower

def lower (s : String) : String := String.ofList (lowerChars s.toList)

def upper (s : String) : String := String.ofList (s.toList.map Char.toUpper)

end SignedToken.Text
