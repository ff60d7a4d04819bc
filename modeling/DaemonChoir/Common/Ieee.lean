import DaemonChoir.Common.Float
set_option autoImplicit false

/-!
# Common: infinities and NaN

The values an `f64` can have, with the comparisons of IEEE 754: `NaN` is unordered
with everything, itself included.  `IeeeFloat` adds to the operations only that their
comparisons are these, so what is proved over it holds however results are rounded;
`Ieee` itself is one such arithmetic, exact on finite values and without signed zeros.
-/

namespace DaemonChoir.Common

/-- A finite number, an infinity, or not a number. -/
inductive Ieee where
  | nan
  | negInf
  | finite (value : ℚ)
  | posInf
  deriving DecidableEq, Repr, Inhabited

namespace Ieee

/-! ## Comparisons -/

/-- `<=` -/
def le : Ieee → Ieee → Bool
  | .nan, _ => false
  | _, .nan => false
  | .negInf, _ => true
  | _, .posInf => true
  | .finite a, .finite b => decide (a ≤ b)
  | .finite _, .negInf => false
  | .posInf, .negInf => false
  | .posInf, .finite _ => false

/-- `<` -/
def lt : Ieee → Ieee → Bool
  | .nan, _ => false
  | _, .nan => false
  | .negInf, .negInf => false
  | .negInf, _ => true
  | .posInf, .posInf => false
  | _, .posInf => true
  | .finite a, .finite b => decide (a < b)
  | .finite _, .negInf => false
  | .posInf, .negInf => false
  | .posInf, .finite _ => false

/-- Two values are ordered one way or the other unless one is not a number. -/
theorem le_or_le_iff (a b : Ieee) :
    (a.le b = true ∨ b.le a = true) ↔ a ≠ .nan ∧ b ≠ .nan := by
  cases a with
  | nan => cases b <;> simp [le]
  | negInf => cases b <;> simp [le]
  | posInf => cases b <;> simp [le]
  | finite a =>
      cases b with
      | finite b => simpa [le] using le_total a b
      | _ => simp [le]

/-! ## Exact arithmetic -/

/-- Unary minus. -/
def neg : Ieee → Ieee
  | .nan => .nan
  | .negInf => .posInf
  | .finite a => .finite (-a)
  | .posInf => .negInf

/-- `+` -/
def add : Ieee → Ieee → Ieee
  | .nan, _ => .nan
  | _, .nan => .nan
  | .posInf, .negInf => .nan
  | .negInf, .posInf => .nan
  | .posInf, _ => .posInf
  | _, .posInf => .posInf
  | .negInf, _ => .negInf
  | _, .negInf => .negInf
  | .finite a, .finite b => .finite (a + b)

/-- The infinity with the sign of a number; zero has none. -/
def infinity (sign : ℚ) : Ieee :=
  if 0 < sign then .posInf else if sign < 0 then .negInf else .nan

/-- `*` -/
def mul : Ieee → Ieee → Ieee
  | .nan, _ => .nan
  | _, .nan => .nan
  | .finite a, .finite b => .finite (a * b)
  | .finite a, .posInf => infinity a
  | .finite a, .negInf => infinity (-a)
  | .posInf, .finite b => infinity b
  | .negInf, .finite b => infinity (-b)
  | .posInf, .posInf => .posInf
  | .negInf, .negInf => .posInf
  | .posInf, .negInf => .negInf
  | .negInf, .posInf => .negInf

/-- `/`, where a zero divisor is positive. -/
def div : Ieee → Ieee → Ieee
  | .nan, _ => .nan
  | _, .nan => .nan
  | .finite a, .finite b => if b = 0 then infinity a else .finite (a / b)
  | .finite _, .posInf => .finite 0
  | .finite _, .negInf => .finite 0
  | .posInf, .finite b => if b < 0 then .negInf else .posInf
  | .negInf, .finite b => if b < 0 then .posInf else .negInf
  | .posInf, .posInf => .nan
  | .negInf, .negInf => .nan
  | .posInf, .negInf => .nan
  | .negInf, .posInf => .nan

/-- A power with a natural exponent. -/
def pow (a : Ieee) : ℕ → Ieee
  | 0 => .finite 1
  | n + 1 => mul (pow a n) a

/-- `f64::powi` -/
def powi (a : Ieee) : Int → Ieee
  | .ofNat n => pow a n
  | .negSucc n => div (.finite 1) (pow a (n + 1))

/-- `f64::floor` -/
def floor : Ieee → Ieee
  | .finite a => .finite ⌊a⌋
  | other => other

/-- `as u64` and `as usize` -/
def toNat : Ieee → ℕ
  | .finite a => ⌊a⌋.toNat
  | .posInf => 2 ^ 64
  | .negInf => 0
  | .nan => 0

instance : Float64 Ieee where
  lit := .finite
  ofNat n := .finite n
  add := add
  sub a b := add a b.neg
  mul := mul
  div := div
  le := le
  lt := lt
  floor := floor
  toNat := toNat
  asF32 a := a
  le_lit h := decide_eq_true h

/-- Only rational results are represented. -/
instance : Libm Ieee where
  powf a b :=
    match b with
    | .finite exponent => if exponent.den = 1 then powi a exponent.num else .nan
    | _ => .nan
  powi := powi
  ln a := if a = .finite 1 then .finite 0 else .nan

end Ieee

/-- Floating-point operations whose comparisons are those of IEEE 754. -/
class IeeeFloat (F : Type) extends Float64 F where
  /-- What a number stands for. -/
  value : F → Ieee
  le_value : ∀ a b : F, Float64.le a b = (value a).le (value b)
  lt_value : ∀ a b : F, Float64.lt a b = (value a).lt (value b)

instance : IeeeFloat Ieee where
  value a := a
  le_value _ _ := rfl
  lt_value _ _ := rfl

namespace IeeeFloat

variable {F : Type} [IeeeFloat F]

/-- The value is not a number. -/
def IsNan (a : F) : Prop := value a = .nan

instance (a : F) : Decidable (IsNan a) := inferInstanceAs (Decidable (_ = _))

/-- The guard `min >= max` and the assertion `min <= max` both fail exactly when a bound
is not a number. -/
theorem ge_or_le_iff (min max : F) :
    (Float64.ge min max = true ∨ Float64.le min max = true) ↔
      ¬ IsNan min ∧ ¬ IsNan max := by
  have h := Ieee.le_or_le_iff (value min) (value max)
  rw [Float64.ge, le_value, le_value, or_comm]
  exact h

end IeeeFloat

end DaemonChoir.Common
