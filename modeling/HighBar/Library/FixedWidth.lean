import Mathlib.Algebra.Group.Int.Defs
import Mathlib.Algebra.Group.Nat.Defs
import Mathlib.Data.Nat.Basic
import Mathlib.Tactic.Common

/-!
# Fixed-width arithmetic on natural numbers

Unsigned machine words are natural numbers, and every operation that can wrap says so: `wrapAdd w`
and `wrapSub w` are addition and subtraction modulo `2 ^ w`. A value that is stored without an
operation is written as the plain number.

`toSigned w` is the reinterpretation of an unsigned word as a two's-complement integer (a C++
`static_cast` from `uint32_t` to `int32_t`), and `ofSigned w` is the cast back.

Each operation comes with the equation that holds when it does **not** wrap, stated with the side
condition `omega` will be asked for; nothing else about it is needed by a proof.
-/

/-- Unsigned addition at width `w`. -/
def wrapAdd (w a b : ℕ) : ℕ := (a + b) % 2 ^ w

/-- Unsigned subtraction at width `w`. -/
def wrapSub (w a b : ℕ) : ℕ := (a + (2 ^ w - b % 2 ^ w)) % 2 ^ w

/-- A sum fits its width. -/
theorem wrapAdd_lt (w a b : ℕ) : wrapAdd w a b < 2 ^ w :=
  Nat.mod_lt _ (Nat.two_pow_pos w)

/-- A sum that fits does not wrap. -/
theorem wrapAdd_of_lt {w a b : ℕ} (h : a + b < 2 ^ w) : wrapAdd w a b = a + b :=
  Nat.mod_eq_of_lt h

/-- The increment of the largest word is zero. -/
theorem wrapAdd_one_of_eq {w a : ℕ} (h : a + 1 = 2 ^ w) : wrapAdd w a 1 = 0 := by
  rw [wrapAdd, h, Nat.mod_self]

/-- Subtraction does not wrap when the subtrahend is no larger. -/
theorem wrapSub_of_le {w a b : ℕ} (hb : b ≤ a) (ha : a < 2 ^ w) : wrapSub w a b = a - b := by
  rw [wrapSub, Nat.mod_eq_of_lt (show b < 2 ^ w by omega),
    show a + (2 ^ w - b) = (a - b) + 2 ^ w by omega, Nat.add_mod_right,
    Nat.mod_eq_of_lt (show a - b < 2 ^ w by omega)]

/-- Reinterpret an unsigned word as a two's-complement integer. -/
def toSigned (w a : ℕ) : ℤ :=
  if a % 2 ^ w < 2 ^ (w - 1) then (a % 2 ^ w : ℕ) else (a % 2 ^ w : ℕ) - (2 ^ w : ℕ)

/-- Reinterpret a two's-complement integer as an unsigned word. -/
def ofSigned (w : ℕ) (z : ℤ) : ℕ := (z % (2 ^ w : ℕ)).toNat

/-- The lower half of the values is not negative. -/
theorem toSigned_of_lt {w a : ℕ} (hw : 0 < w) (h : a < 2 ^ (w - 1)) : toSigned w a = a := by
  have hle : 2 ^ (w - 1) ≤ 2 ^ w := Nat.pow_le_pow_right (by omega) (by omega)
  rw [toSigned, Nat.mod_eq_of_lt (show a < 2 ^ w by omega), if_pos h]

/-- A reinterpreted word is below the sign bit. -/
theorem toSigned_lt (w a : ℕ) : toSigned w a < (2 ^ (w - 1) : ℕ) := by
  have hlt := Nat.mod_lt a (Nat.two_pow_pos w)
  have hpos := Nat.two_pow_pos (w - 1)
  rw [toSigned]
  split <;> omega
