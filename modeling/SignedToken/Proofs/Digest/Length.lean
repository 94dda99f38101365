import SignedToken.Digest.Hmac

/-!
# How long digests are

A digest is as long as its size says, whatever the key and the message, so that digests of two sizes
are never the same.
-/

namespace SignedToken

namespace Sha2

/-! ## Words -/

theorem length_store32 (w : UInt32) : (store32 w).length = 4 := rfl

theorem length_store64 (w : UInt64) : (store64 w).length = 8 := rfl

section
variable {W : Type} [Add W] [AndOp W] [XorOp W] [Complement W]

/-- A digest is the eight words of a state. -/
theorem length_digest (p : Width W) (hstore : ∀ w, (p.store w).length = p.wordBytes)
    (initial : State W) (message : List UInt8) :
    (digest p initial message).length = 8 * p.wordBytes := by
  rw [digest]
  generalize absorb p initial (p.load (pad p message)) = s
  simp only [State.toList, List.flatMap_cons, List.flatMap_nil, List.length_append, hstore,
    List.length_nil]
  omega

end

/-! ## Digests -/

theorem length_hash (size : Size) (message : List UInt8) :
    (hash size message).length = size.digestBytes := by
  have h32 := length_digest width32 length_store32
  have h64 := length_digest width64 length_store64
  cases size with
  | bits256 => exact h32 initial256 message
  | bits384 =>
    rw [hash, List.length_take, h64]
    rfl
  | bits512 => exact h64 initial512 message

theorem Size.digestBytes_inj {size size' : Size} :
    size.digestBytes = size'.digestBytes ↔ size = size' := by
  cases size <;> cases size' <;> simp [digestBytes]

end Sha2

theorem Hmac.length_code (size : Sha2.Size) (key message : List UInt8) :
    (code size key message).length = size.digestBytes :=
  Sha2.length_hash size _

end SignedToken
