/-!
# The longest page

While pages come in, the longest one so far is kept.  Lengths are held in signed 64-bit numbers, so
a length of `2 ^ 63` or more becomes negative; since the search starts at `-1`, such a page can
never be the longest.  A page of length zero can.

* `LongestPage.observe` — look at one more page; of pages of equal length the earliest is kept.
-/

set_option autoImplicit false

namespace PageCensus

/-- The number that 64 bits with a sign hold after `n` was stored in them: the low 64 bits of `n`,
of which the highest counts negatively. -/
def signed64 (n : Nat) : Int := (BitVec.ofNat 64 n).toInt

/-- Below `2 ^ 63` nothing is lost. -/
theorem signed64_of_lt {n : Nat} (h : n < 1 <<< 63) : signed64 n = n := by
  rw [signed64, BitVec.toInt_eq_toNat_cond, BitVec.toNat_ofNat]
  split <;> omega

/-- From `2 ^ 63` on the number is negative. -/
theorem signed64_of_le {n : Nat} (h : 1 <<< 63 ≤ n) (h' : n < 1 <<< 64) :
    signed64 n = n - (1 <<< 64 : Nat) := by
  rw [signed64, BitVec.toInt_eq_toNat_cond, BitVec.toNat_ofNat]
  split <;> omega

/-- The longest page so far. -/
structure LongestPage where
  /-- Its address, or none if no page was kept yet. -/
  url : Option String
  /-- Its length in characters; `-1` before the first page. -/
  length : Int
deriving DecidableEq, Repr

namespace LongestPage

/-- No page yet. -/
def initial : LongestPage := ⟨none, -1⟩

/-- Whether a page of `length` characters is longer than the longest so far. -/
def isBeatenBy (longest : LongestPage) (length : Nat) : Bool := longest.length < signed64 length

/-- Look at one more page. -/
def observe (longest : LongestPage) (url : String) (length : Nat) : LongestPage :=
  if longest.isBeatenBy length then ⟨some url, signed64 length⟩ else longest

theorem observe_of_isBeatenBy {longest : LongestPage} {url : String} {length : Nat}
    (h : longest.isBeatenBy length = true) :
    longest.observe url length = ⟨some url, signed64 length⟩ := by
  simp [observe, h]

theorem observe_of_not_isBeatenBy {longest : LongestPage} {url : String} {length : Nat}
    (h : longest.isBeatenBy length = false) : longest.observe url length = longest := by
  simp [observe, h]

end LongestPage

end PageCensus
