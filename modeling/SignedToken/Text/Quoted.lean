import SignedToken.Text.GraphemeExtend
import SignedToken.Text.Unprintable

/-!
# Quoted text

A text in double quotes for a reader of messages: what cannot be seen, or would blend with what
stands before it, is written as its code point.
-/

namespace SignedToken.Text

/-- The code point in braces, in as few hexadecimal digits as there are. -/
def codePoint (c : Char) : List Char :=
  '\\' :: 'u' :: '\x7b' :: (Nat.toDigits 16 c.toNat ++ ['\x7d'])

def quotedChar (c : Char) : List Char :=
  if c = '\x00' then ['\\', '0']
  else if c = '\t' then ['\\', 't']
  else if c = '\n' then ['\\', 'n']
  else if c = '\r' then ['\\', 'r']
  else if c = '"' then ['\\', '"']
  else if c = '\\' then ['\\', '\\']
  else if 0x20 ≤ c.toNat ∧ c.toNat < 0x7F then [c]
  else if isGraphemeExtend c || isUnprintable c then codePoint c
  else [c]

def quoted (s : String) : String := String.ofList ('"' :: (s.toList.flatMap quotedChar ++ ['"']))

end SignedToken.Text
