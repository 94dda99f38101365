/-!
# Identifiers

Identifiers are drawn from a source of random bytes: each draw takes four of them, and one in 32 is
thrown away so that all characters are equally likely. A source is such that every search for a
usable draw ends.
-/

namespace SignedToken

/-! ## Draws -/

/-- The number that four bytes spell, little end first. -/
def littleEndian (a b c d : UInt8) : Nat :=
  a.toNat + 256 * (b.toNat + 256 * (c.toNat + 256 * d.toNat))

/-- The `k`-th draw from a stream of bytes: the six highest bits of its four bytes. -/
def drawnIndex (bytes : Nat → UInt8) (k : Nat) : Nat :=
  littleEndian (bytes (4 * k)) (bytes (4 * k + 1)) (bytes (4 * k + 2)) (bytes (4 * k + 3))
    / 0x4000000

def alphabet : List Char :=
  "ABCDEFGHIJKLMNOPQRSTUVWXYZabcdefghijklmnopqrstuvwxyz0123456789".toList

/-- An endless stream of random bytes in which usable draws never cease. -/
structure Entropy where
  bytes : Nat → UInt8
  endless : ∀ p, ∃ q, p ≤ q ∧ drawnIndex bytes q < 62

namespace Entropy

def index (e : Entropy) (k : Nat) : Nat := drawnIndex e.bytes k

/-- A place in the stream, counted in draws. -/
structure Place (e : Entropy) where
  draw : Nat

/-- From one place to the next, as long as the draw is not usable. -/
def Skips (e : Entropy) (next here : e.Place) : Prop :=
  next.draw = here.draw + 1 ∧ ¬ e.index here.draw < 62

theorem acc_skips_of_usable (e : Entropy) (ahead : Nat) :
    ∀ p, e.index (p + ahead) < 62 → Acc e.Skips ⟨p⟩ := by
  induction ahead with
  | zero => exact fun p h => ⟨_, fun next hn => absurd h hn.2⟩
  | succ ahead ih =>
    refine fun p h => ⟨_, fun next hn => ?_⟩
    obtain ⟨n⟩ := next
    obtain rfl : n = p + 1 := hn.1
    exact ih (p + 1) (by rwa [Nat.add_right_comm, Nat.add_assoc])

theorem wellFounded_skips (e : Entropy) : WellFounded e.Skips := by
  refine ⟨fun ⟨p⟩ => ?_⟩
  obtain ⟨q, hpq, hq⟩ := e.endless p
  exact e.acc_skips_of_usable (q - p) p (by rwa [Nat.add_sub_cancel' hpq])

instance (e : Entropy) : WellFoundedRelation e.Place := ⟨e.Skips, e.wellFounded_skips⟩

def search (e : Entropy) (p : Nat) : Nat :=
  if e.index p < 62 then p else e.search (p + 1)
termination_by (⟨p⟩ : e.Place)
decreasing_by exact ⟨rfl, by assumption⟩

/-- `n` characters from `p` on, and the place behind the last draw they took. -/
def characters (e : Entropy) : Nat → Nat → List Char × Nat
  | 0, p => ([], p)
  | n + 1, p =>
    let q := e.search p
    let (cs, after) := e.characters n (q + 1)
    (alphabet.getD (e.index q) 'A' :: cs, after)

/-! ## Sources -/

def zeros : Entropy where
  bytes _ := 0
  endless p := ⟨p, Nat.le_refl p, by simp [drawnIndex, littleEndian]⟩

def repeated (pattern : Array UInt8) (i : Nat) : UInt8 := pattern.getD (i % pattern.size) 0

theorem drawnIndex_repeated (pattern : Array UInt8) (k rounds : Nat) :
    drawnIndex (repeated pattern) (k + pattern.size * rounds)
      = drawnIndex (repeated pattern) k := by
  have h (c : Nat) : repeated pattern (4 * (k + pattern.size * rounds) + c)
      = repeated pattern (4 * k + c) := by
    have : 4 * (k + pattern.size * rounds) + c = 4 * k + c + pattern.size * (4 * rounds) := by
      rw [Nat.mul_left_comm pattern.size]; omega
    simp [repeated, this]
  have h0 := h 0
  simp only [Nat.add_zero] at h0
  simp only [drawnIndex, h0, h 1, h 2, h 3]

/-- A pattern over and over, if there is a usable draw in it. -/
def cycle? (pattern : Array UInt8) : Option Entropy :=
  if h : ∃ k, k < pattern.size ∧ drawnIndex (repeated pattern) k < 62 then
    some {
      bytes := repeated pattern
      endless := fun p => by
        obtain ⟨k, hk, hu⟩ := h
        refine ⟨k + pattern.size * p, ?_, by rwa [drawnIndex_repeated]⟩
        exact Nat.le_trans (Nat.le_mul_of_pos_left p (by omega)) (Nat.le_add_left _ _)
    }
  else none

end Entropy

/-! ## Identifiers -/

namespace Identifier

def defaultLength : Nat := 64

/-- A text of `n` random letters and digits, and the place in the source behind it. -/
def draw (e : Entropy) (n place : Nat) : String × Nat :=
  let (cs, after) := e.characters n place
  (String.ofList cs, after)

def random (e : Entropy) (place : Nat) : String × Nat := draw e defaultLength place

end Identifier

end SignedToken
