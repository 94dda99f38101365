/-!
# UTF-8

Text as bytes and bytes as text, by the arithmetic of RFC 3629. A refusal says where the first
ill-formed sequence starts and whether more bytes could have completed it.
-/

namespace SignedToken.Utf8

/-! ## Writing -/

/-- One to four bytes: six bits to a continuation byte, the rest in the leading one. -/
def encodeChar (c : Char) : List UInt8 :=
  let n := c.toNat
  if n < 0x80 then [.ofNat n]
  else if n < 0x800 then [.ofNat (0xC0 + n / 64), .ofNat (0x80 + n % 64)]
  else if n < 0x10000 then
    [.ofNat (0xE0 + n / 4096), .ofNat (0x80 + n / 64 % 64), .ofNat (0x80 + n % 64)]
  else
    [.ofNat (0xF0 + n / 262144), .ofNat (0x80 + n / 4096 % 64), .ofNat (0x80 + n / 64 % 64),
      .ofNat (0x80 + n % 64)]

def encode (cs : List Char) : List UInt8 := cs.flatMap encodeChar

def bytes (s : String) : List UInt8 := encode s.toList

/-! ## Reading -/

/-- Where reading stopped: at the end of the input inside a sequence, or before `length` bytes
that no sequence starts with. -/
inductive DecodeError where
  | incomplete (index : Nat)
  | invalid (index length : Nat)
deriving DecidableEq, Repr

def DecodeError.message : DecodeError → String
  | .incomplete index => s!"incomplete utf-8 byte sequence from index {index}"
  | .invalid index length => s!"invalid utf-8 sequence of {length} bytes from index {index}"

def isContinuation (b : UInt8) : Bool := 0x80 ≤ b && b ≤ 0xBF

/-- The second byte of a longer sequence: its range leaves out overlong forms, surrogates and
everything above U+10FFFF. -/
def isSecond (first second : UInt8) : Bool :=
  if first = 0xE0 then 0xA0 ≤ second && second ≤ 0xBF
  else if first = 0xED then 0x80 ≤ second && second ≤ 0x9F
  else if first = 0xF0 then 0x90 ≤ second && second ≤ 0xBF
  else if first = 0xF4 then 0x80 ≤ second && second ≤ 0x8F
  else isContinuation second

/-- Reads on from `index`; `done` holds the characters read so far, last first. -/
def decodeFrom (index : Nat) (done : List Char) : List UInt8 → Except DecodeError (List Char)
  | [] => .ok done.reverse
  | a :: rest =>
    if a < 0x80 then decodeFrom (index + 1) (Char.ofNat a.toNat :: done) rest
    else if 0xC2 ≤ a && a ≤ 0xDF then
      match rest with
      | [] => .error (.incomplete index)
      | b :: rest =>
        if isContinuation b then
          decodeFrom (index + 2)
            (Char.ofNat ((a.toNat - 0xC0) * 64 + (b.toNat - 0x80)) :: done) rest
        else .error (.invalid index 1)
    else if 0xE0 ≤ a && a ≤ 0xEF then
      match rest with
      | [] => .error (.incomplete index)
      | b :: rest =>
        if !isSecond a b then .error (.invalid index 1)
        else match rest with
          | [] => .error (.incomplete index)
          | c :: rest =>
            if isContinuation c then
              decodeFrom (index + 3)
                (Char.ofNat ((a.toNat - 0xE0) * 4096 + (b.toNat - 0x80) * 64 + (c.toNat - 0x80))
                  :: done)
                rest
            else .error (.invalid index 2)
    else if 0xF0 ≤ a && a ≤ 0xF4 then
      match rest with
      | [] => .error (.incomplete index)
      | b :: rest =>
        if !isSecond a b then .error (.invalid index 1)
        else match rest with
          | [] => .error (.incomplete index)
          | c :: rest =>
            if !isContinuation c then .error (.invalid index 2)
            else match rest with
              | [] => .error (.incomplete index)
              | d :: rest =>
                if isContinuation d then
                  decodeFrom (index + 4)
                    (Char.ofNat ((a.toNat - 0xF0) * 262144 + (b.toNat - 0x80) * 4096
                      + (c.toNat - 0x80) * 64 + (d.toNat - 0x80)) :: done)
                    rest
                else .error (.invalid index 3)
    else .error (.invalid index 1)

def decode (bs : List UInt8) : Except DecodeError (List Char) := decodeFrom 0 [] bs

def text? (bs : List UInt8) : Option String :=
  match decode bs with
  | .ok cs => some (String.ofList cs)
  | .error _ => none

end SignedToken.Utf8
