import Payables.Basic

namespace Payables.Signing

/-- HMAC-SHA256 as a hexadecimal digest, by key and ASCII message. -/
structure Hmac where
  digest : String → List Char → List Char
  length : ∀ key message, (digest key message).length = 64
  hex : ∀ key message, ∀ c ∈ digest key message, c ∈ "0123456789abcdef".toList

def isAscii (c : Char) : Bool := decide (c.toNat < 128)

/-- `hmac.compare_digest`, on two texts. -/
def compareDigest (one other : List Char) : Except Raised Bool :=
  if one.all isAscii && other.all isAscii then .ok (one == other) else .error (.uncaught "TypeError")

namespace Hmac

variable (mac : Hmac) (key : String) (message : List Char)

theorem digest_ne_nil : mac.digest key message ≠ [] := by
  intro empty
  have length := mac.length key message
  rw [empty] at length
  cases length

theorem digest_ascii : (mac.digest key message).all isAscii = true := by
  refine List.all_eq_true.mpr fun c member => ?_
  have digits : ("0123456789abcdef".toList.all isAscii) = true := by decide
  exact List.all_eq_true.mp digits c (mac.hex key message c member)

theorem dot_not_mem_digest : '.' ∉ mac.digest key message := by
  intro member
  exact absurd (mac.hex key message '.' member) (by decide)

end Hmac

theorem compareDigest_eq_ok {one other : List Char} (ascii : one.all isAscii = true) (ascii' : other.all isAscii = true) :
    compareDigest one other = .ok (one == other) := by
  rw [compareDigest, ascii, ascii', Bool.and_self, if_pos rfl]

theorem compareDigest_raises {one other : List Char} (foreign : other.all isAscii = false) :
    compareDigest one other = .error (.uncaught "TypeError") := by
  rw [compareDigest, foreign, Bool.and_false, if_neg Bool.false_ne_true]

end Payables.Signing
