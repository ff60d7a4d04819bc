import Mathlib.Algebra.Group.Nat.Defs
import Mathlib.Algebra.Group.Int.Defs
set_option autoImplicit false

/-!
# Foundation: the FNV-1a fold

Both operations of a round, the exclusive or with a word and the product with an odd
constant, can be undone.  So a round loses neither the state nor the word, and a fold
loses a difference only when a later round brings another one.
-/

namespace DaemonChoir.Foundation.Fnv

/-- The FNV offset basis. -/
def offsetBasis : UInt64 := 0xcbf29ce484222325

/-- The FNV prime. -/
def prime : UInt64 := 0x100000001b3

/-- One round. -/
def absorb (hash word : UInt64) : UInt64 := (hash ^^^ word) * prime

/-- The fold over words. -/
def digest (words : List UInt64) : UInt64 := words.foldl absorb offsetBasis

/-- The prime has an inverse modulo `2 ^ 64`. -/
theorem mul_prime_inj {left right : UInt64} (h : left * prime = right * prime) :
    left = right := by
  have hunit : prime * 0xce965057aff6957b = 1 := rfl
  calc left
      = left * (prime * 0xce965057aff6957b) := by rw [hunit, UInt64.mul_one]
    _ = right * (prime * 0xce965057aff6957b) := by
      rw [← UInt64.mul_assoc, h, UInt64.mul_assoc]
    _ = right := by rw [hunit, UInt64.mul_one]

/-- A round keeps two states apart. -/
theorem absorb_left_inj {left right word : UInt64} :
    absorb left word = absorb right word ↔ left = right := by
  constructor
  · intro h
    exact (UInt64.xor_left_inj word).mp (mul_prime_inj h)
  · intro h
    rw [h]

/-- A round keeps two words apart. -/
theorem absorb_right_inj {hash left right : UInt64} :
    absorb hash left = absorb hash right ↔ left = right := by
  constructor
  · intro h
    exact (UInt64.xor_right_inj hash).mp (mul_prime_inj h)
  · intro h
    rw [h]

/-- The same words keep two states apart. -/
theorem foldl_absorb_inj {left right : UInt64} (words : List UInt64) :
    words.foldl absorb left = words.foldl absorb right ↔ left = right := by
  induction words generalizing left right with
  | nil => exact Iff.rfl
  | cons word rest ih => rw [List.foldl_cons, List.foldl_cons, ih, absorb_left_inj]

/-- Two lists of words that differ in one place have different digests. -/
theorem digest_replace {front back : List UInt64} {left right : UInt64} :
    digest (front ++ left :: back) = digest (front ++ right :: back) ↔ left = right := by
  unfold digest
  rw [List.foldl_append, List.foldl_append, List.foldl_cons, List.foldl_cons,
    foldl_absorb_inj, absorb_right_inj]

/-! ## Four words of one byte

A word below 256 changes the low byte only, so that two states drift apart by little more
than the prime times their difference.  For four rounds that is too little to come back to
a difference in the low byte, unless there was none. -/

/-- A word below 256 leaves the upper seven bytes alone. -/
theorem xor_div (hash : UInt64) {word : UInt64} (h : word < 256) :
    (hash ^^^ word).toNat / 256 = hash.toNat / 256 := by
  have hsmall : word.toNat / 2 ^ 8 = 0 := Nat.div_eq_of_lt (UInt64.lt_iff_toNat_lt.mp h)
  have hpower : (256 : Nat) = 2 ^ 8 := rfl
  rw [UInt64.toNat_xor, hpower, Nat.xor_div_two_pow, hsmall, Nat.xor_zero]

theorem absorb_toNat (hash word : UInt64) :
    (absorb hash word).toNat = (hash ^^^ word).toNat * 1099511628211 % 2 ^ 64 :=
  UInt64.toNat_mul ..

/-- The prime is `2 ^ 40 + 435`.  The low 40 bits of the drift are a small number in base
435, so that they vanish as integers. -/
theorem drift_low {first second third fourth turns : Int}
    (hfirst : -255 ≤ first ∧ first ≤ 255) (hsecond : -510 ≤ second ∧ second ≤ 510)
    (hthird : -510 ≤ third ∧ third ≤ 510) (hfourth : -255 ≤ fourth ∧ fourth ≤ 255)
    (h : ((first * 1099511628211 + second) * 1099511628211 + third) * 1099511628211 =
      fourth + 2 ^ 64 * turns) :
    fourth = 0 ∧ first * 435 ^ 2 + second * 435 + third = 0 := by
  have hlow : (first * 435 ^ 2 + second * 435 + third) * 435 = fourth := by omega
  clear h
  exact ⟨by omega, by omega⟩

/-- The 24 bits above them, once the low bits have vanished. -/
theorem drift_high {first carry turns : Int}
    (h : ((first * 1099511628211 - (435 * first + carry)) * 1099511628211 + 435 * carry) *
      1099511628211 = 2 ^ 64 * turns) :
    ∃ rest, first * 435 ^ 2 - 435 * carry = 2 ^ 24 * rest :=
  ⟨turns - 2 ^ 56 * first - 3 * 435 * 2 ^ 16 * first + 2 ^ 16 * (435 * first + carry),
    by omega⟩

/-- The differences that three rounds can bring cancel only when each of them is zero. -/
theorem drift_eq_zero {first second third fourth turns : Int}
    (hfirst : -255 ≤ first ∧ first ≤ 255) (hsecond : -510 ≤ second ∧ second ≤ 510)
    (hthird : -510 ≤ third ∧ third ≤ 510) (hfourth : -255 ≤ fourth ∧ fourth ≤ 255)
    (h : ((first * 1099511628211 + second) * 1099511628211 + third) * 1099511628211 =
      fourth + 2 ^ 64 * turns) :
    first = 0 ∧ second = 0 ∧ third = 0 ∧ fourth = 0 := by
  obtain ⟨rfl, hmiddle⟩ := drift_low hfirst hsecond hthird hfourth h
  obtain ⟨carry, rfl⟩ : ∃ carry, third = 435 * carry :=
    ⟨-(first * 435 + second), by clear h; omega⟩
  obtain rfl : second = -(435 * first + carry) := by
    clear h
    omega
  rw [Int.zero_add] at h
  obtain ⟨rest, hhigh⟩ := drift_high h
  clear h
  have hrest : rest = 0 := by omega
  have hfirstZero : first = 0 := by omega
  have hcarryZero : carry = 0 := by omega
  rw [hfirstZero, hcarryZero]
  exact ⟨rfl, rfl, rfl, rfl⟩

/-- The low bytes of two states and of two words change the difference by at most twice
255. -/
theorem xor_drift (left right : UInt64) {a b : UInt64} (ha : a < 256) (hb : b < 256) :
    ∃ change : Int, (-510 ≤ change ∧ change ≤ 510) ∧
      ((left ^^^ a).toNat - (right ^^^ b).toNat : Int) =
        left.toNat - right.toNat + change := by
  have hleft := xor_div left ha
  have hright := xor_div right hb
  exact ⟨((left ^^^ a).toNat - (right ^^^ b).toNat : Int) - (left.toNat - right.toNat),
    by omega, by omega⟩

/-- From one state only the words count. -/
theorem xor_drift_same (hash : UInt64) {a b : UInt64} (ha : a < 256) (hb : b < 256) :
    -255 ≤ ((hash ^^^ a).toNat - (hash ^^^ b).toNat : Int) ∧
      ((hash ^^^ a).toNat - (hash ^^^ b).toNat : Int) ≤ 255 := by
  have hleft := xor_div hash ha
  have hright := xor_div hash hb
  omega

/-- The product multiplies the difference, modulo `2 ^ 64`. -/
theorem absorb_drift (left right a b : UInt64) :
    ∃ turns : Int, ((absorb left a).toNat - (absorb right b).toNat : Int) =
      ((left ^^^ a).toNat - (right ^^^ b).toNat) * 1099511628211 + 2 ^ 64 * turns := by
  rw [absorb_toNat, absorb_toNat]
  have hleft := Nat.div_add_mod ((left ^^^ a).toNat * 1099511628211) (2 ^ 64)
  have hright := Nat.div_add_mod ((right ^^^ b).toNat * 1099511628211) (2 ^ 64)
  exact ⟨((right ^^^ b).toNat * 1099511628211 / 2 ^ 64 : Nat) -
    ((left ^^^ a).toNat * 1099511628211 / 2 ^ 64 : Nat), by omega⟩

/-- Two states that a word below 256 each makes equal agree but for the low byte. -/
theorem drift_of_xor_eq {left right a b : UInt64} (ha : a < 256) (hb : b < 256)
    (h : left ^^^ a = right ^^^ b) :
    -255 ≤ (left.toNat - right.toNat : Int) ∧ (left.toNat - right.toNat : Int) ≤ 255 := by
  have hleft := xor_div left ha
  have hright := xor_div right hb
  rw [h] at hleft
  omega

/-- From one state no drift means the same word. -/
theorem eq_of_xor_drift {hash a b : UInt64}
    (h : ((hash ^^^ a).toNat - (hash ^^^ b).toNat : Int) = 0) : a = b := by
  have hsame : (hash ^^^ a).toNat = (hash ^^^ b).toNat := by omega
  exact (UInt64.xor_right_inj hash).mp (UInt64.toNat_inj.mp hsame)

/-- Four words of one byte are never confused. -/
theorem digest_four_inj {a₁ a₂ a₃ a₄ b₁ b₂ b₃ b₄ : UInt64}
    (ha : a₁ < 256 ∧ a₂ < 256 ∧ a₃ < 256 ∧ a₄ < 256)
    (hb : b₁ < 256 ∧ b₂ < 256 ∧ b₃ < 256 ∧ b₄ < 256)
    (h : digest [a₁, a₂, a₃, a₄] = digest [b₁, b₂, b₃, b₄]) :
    a₁ = b₁ ∧ a₂ = b₂ ∧ a₃ = b₃ ∧ a₄ = b₄ := by
  obtain ⟨ha₁, ha₂, ha₃, ha₄⟩ := ha
  obtain ⟨hb₁, hb₂, hb₃, hb₄⟩ := hb
  simp only [digest, List.foldl_cons, List.foldl_nil] at h
  have hfirst := xor_drift_same offsetBasis ha₁ hb₁
  obtain ⟨turns₁, hstate₁⟩ := absorb_drift offsetBasis offsetBasis a₁ b₁
  obtain ⟨second, hsecond, hdrift₂⟩ :=
    xor_drift (absorb offsetBasis a₁) (absorb offsetBasis b₁) ha₂ hb₂
  obtain ⟨turns₂, hstate₂⟩ :=
    absorb_drift (absorb offsetBasis a₁) (absorb offsetBasis b₁) a₂ b₂
  obtain ⟨third, hthird, hdrift₃⟩ := xor_drift (absorb (absorb offsetBasis a₁) a₂)
    (absorb (absorb offsetBasis b₁) b₂) ha₃ hb₃
  obtain ⟨turns₃, hstate₃⟩ := absorb_drift (absorb (absorb offsetBasis a₁) a₂)
    (absorb (absorb offsetBasis b₁) b₂) a₃ b₃
  have hfourth := drift_of_xor_eq ha₄ hb₄ (mul_prime_inj h)
  have hrounds : (((((offsetBasis ^^^ a₁).toNat - (offsetBasis ^^^ b₁).toNat : Int) *
      1099511628211 + second) * 1099511628211 + third) * 1099511628211) =
        ((absorb (absorb (absorb offsetBasis a₁) a₂) a₃).toNat -
          (absorb (absorb (absorb offsetBasis b₁) b₂) b₃).toNat : Int) +
            2 ^ 64 * -(turns₁ * 1099511628211 ^ 2 + turns₂ * 1099511628211 + turns₃) := by
    rw [hstate₃, hdrift₃, hstate₂, hdrift₂, hstate₁]
    omega
  obtain ⟨hzero₁, hzero₂, hzero₃, _⟩ :=
    drift_eq_zero hfirst hsecond hthird hfourth hrounds
  obtain rfl := eq_of_xor_drift hzero₁
  rw [hzero₂, Int.sub_self, Int.add_zero] at hdrift₂
  obtain rfl := eq_of_xor_drift hdrift₂
  rw [hzero₃, Int.sub_self, Int.add_zero] at hdrift₃
  obtain rfl := eq_of_xor_drift hdrift₃
  exact ⟨rfl, rfl, rfl, absorb_right_inj.mp h⟩

end DaemonChoir.Foundation.Fnv
