import Mathlib

/-!
# JavaScript numbers as the protobuf readers see them

Both workers read a protobuf varint into a `BigInt` and hand the rest of the reader
`Number(x)`; cursors then move by `pos++`, `pos + 4`, `pos + 8` and `next + len`, all in
double arithmetic, and every loop compares its cursor with `<`.  Each number a reader
produces is a non-negative integer or `Infinity`, and that is all `Num` holds.

Doubles are exact below `2 ^ 53`.  Above it `Number(x)` keeps 53 significant bits, rounding
to nearest with ties to even, and from `2 ^ 1024` on it is `Infinity`; a sum of two numbers is
rounded the same way.  The rounding is observable: a cursor at `2 ^ 53` no longer moves under
`pos++`.

A key is split by `key >> 3` and `key & 7`, and both operators first take the number through
`ToInt32`, so a key of `2 ^ 31` or more gives a negative field number.

## Main definitions

* `Num`, `Num.ofNat` — the numbers, and `Number(x)` for a `BigInt` `x ≥ 0`.
* `Num.add`, `Num.lt` — `+` and `<`.
* `Num.toInt32`, `Num.fieldNo`, `Num.wireType` — `ToInt32`, `key >> 3` and `key & 7`.

## Main results

* `Num.ofNat_of_lt` — `Number(x) = x` below `2 ^ 53`.
* `Num.fieldNo_key_eq_iff`, `Num.wireType_key` — a key `n * 8 + w` of a field number below
  `2 ^ 29` gives back `n` when compared with a small field number, and gives back `w`.
-/

namespace Transit

/-- A number the protobuf readers hold: a non-negative integer, or `Infinity`. -/
inductive Num where
  /-- A finite number, always a non-negative integer here. -/
  | fin (n : ℕ)
  /-- `Infinity`. -/
  | inf
  deriving DecidableEq, Repr

namespace Num

/-- How many low bits `Number(x)` rounds away: none below `2 ^ 53`, one more for each halving
it takes to get below.  The fuel stops the count at `1024` bits, past which the result is
`Infinity` in any case. -/
def excessBits : ℕ → ℕ → ℕ
  | 0, _ => 0
  | k + 1, x => if x < 2 ^ 53 then 0 else excessBits k (x / 2) + 1

/-- `Number(x)` for a `BigInt` `x ≥ 0`: the nearest double, ties to even, `Infinity` from
`2 ^ 1024` (written `1 <<< 1024`) on. -/
def ofNat (x : ℕ) : Num :=
  let e := excessBits 1024 x
  let q := x >>> e
  let r := x % 2 ^ e
  let q' := if 2 ^ e < 2 * r ∨ (2 * r = 2 ^ e ∧ q % 2 = 1) then q + 1 else q
  if 1 <<< 1024 ≤ q' <<< e then inf else fin (q' <<< e)

theorem excessBits_of_lt {x : ℕ} (h : x < 2 ^ 53) : ∀ k, excessBits k x = 0
  | 0 => rfl
  | _ + 1 => if_pos h

/-- Below `2 ^ 53` a double is exact. -/
theorem ofNat_of_lt {x : ℕ} (h : x < 2 ^ 53) : ofNat x = fin x := by
  have hx : ¬ 1 <<< 1024 ≤ x := Nat.not_le.mpr (h.trans (by decide))
  simp only [ofNat, excessBits_of_lt h, Nat.shiftRight_zero, Nat.shiftLeft_zero, pow_zero,
    Nat.mod_one, mul_zero, Nat.not_lt_zero, false_or, zero_ne_one, false_and, if_false]
  rw [if_neg hx]

/-- `a + b` on doubles: the exact sum, rounded. -/
def add : Num → Num → Num
  | fin a, fin b => ofNat (a + b)
  | _, _ => inf

instance : Add Num := ⟨add⟩

@[simp] theorem fin_add_fin (a b : ℕ) : fin a + fin b = ofNat (a + b) := rfl

@[simp] theorem inf_add (b : Num) : inf + b = inf := rfl

@[simp] theorem add_inf (a : Num) : a + inf = inf := by cases a <;> rfl

theorem fin_add_fin_of_lt {a b : ℕ} (h : a + b < 2 ^ 53) : fin a + fin b = fin (a + b) := by
  rw [fin_add_fin, ofNat_of_lt h]

/-- `a < b` on doubles; nothing is below itself, `Infinity` included. -/
def lt : Num → Num → Prop
  | fin a, fin b => a < b
  | fin _, inf => True
  | inf, _ => False

instance : LT Num := ⟨lt⟩

instance decLt : (a b : Num) → Decidable (a < b)
  | fin a, fin b => inferInstanceAs (Decidable (a < b))
  | fin _, inf => isTrue trivial
  | inf, _ => isFalse id

@[simp] theorem fin_lt_fin {a b : ℕ} : fin a < fin b ↔ a < b := Iff.rfl

@[simp] theorem fin_lt_inf (a : ℕ) : fin a < inf := trivial

@[simp] theorem not_inf_lt (b : Num) : ¬ inf < b := id

/-- `ToInt32`: the number modulo `2 ^ 32`, read as a signed 32-bit integer; `Infinity`
gives `0`. -/
def toInt32 : Num → ℤ
  | fin n => if n % 2 ^ 32 < 2 ^ 31 then (n % 2 ^ 32 : ℕ) else (n % 2 ^ 32 : ℕ) - 2 ^ 32
  | inf => 0

/-- `key >> 3`: the arithmetic shift of `ToInt32(key)`, a division by `8` rounding down. -/
def fieldNo (key : Num) : ℤ := key.toInt32 / 8

/-- `key & 7`: the low three bits of `ToInt32(key)`. -/
def wireType (key : Num) : ℕ := (key.toInt32 % 8).toNat

/-- The low three bits survive `ToInt32`, since `8` divides `2 ^ 32`. -/
@[simp] theorem wireType_fin (n : ℕ) : wireType (fin n) = n % 8 := by
  simp only [wireType, toInt32]
  split <;> omega

@[simp] theorem wireType_inf : wireType inf = 0 := rfl

theorem wireType_lt (key : Num) : wireType key < 8 := by
  cases key <;> simp; omega

theorem wireType_key {n w : ℕ} (hw : w < 8) : wireType (fin (n * 8 + w)) = w := by
  simp; omega

/-- The field number of a key below `2 ^ 32`: the key's own `n` below `2 ^ 28`, a negative
number from `2 ^ 28` on. -/
theorem fieldNo_key {n w : ℕ} (hn : n < 2 ^ 29) (hw : w < 8) :
    fieldNo (fin (n * 8 + w)) = if n < 2 ^ 28 then (n : ℤ) else (n : ℤ) - 2 ^ 29 := by
  simp only [fieldNo, toInt32]
  split_ifs <;> omega

/-- Compared with a field number below `2 ^ 28`, the field number read from a key is the one
written into it. -/
theorem fieldNo_key_eq_iff {n w : ℕ} {m : ℤ} (hn : n < 2 ^ 29) (hw : w < 8) (hm : 0 ≤ m)
    (hm' : m < 2 ^ 28) : fieldNo (fin (n * 8 + w)) = m ↔ (n : ℤ) = m := by
  rw [fieldNo_key hn hw]
  split_ifs <;> omega

end Num

end Transit
