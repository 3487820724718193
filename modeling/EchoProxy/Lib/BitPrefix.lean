import Mathlib.Data.List.Induction
import Mathlib.Data.Nat.Bitwise

/-! Numbers of a fixed width that agree on their first bits, and the blocks of an
equal number of bits they make up. -/

namespace BitPrefix

/-- The first `count` of `width` bits agree, from the most significant on. -/
def Agree (width count a b : Nat) : Prop := ∀ i < count, a.testBit (width - 1 - i) = b.testBit (width - 1 - i)

theorem agree_iff_div {width count a b : Nat} (fits : count ≤ width) (first : a < 2 ^ width) (second : b < 2 ^ width) :
    Agree width count a b ↔ a / 2 ^ (width - count) = b / 2 ^ (width - count) := by
  constructor
  · intro agree
    apply Nat.eq_of_testBit_eq
    intro i
    rw [Nat.testBit_div_two_pow, Nat.testBit_div_two_pow]
    by_cases inside : i < count
    · have same := agree (count - 1 - i) (by omega)
      have place : width - 1 - (count - 1 - i) = i + (width - count) := by omega
      rwa [place] at same
    · have high : 2 ^ width ≤ 2 ^ (i + (width - count)) := Nat.pow_le_pow_right (by decide) (by omega)
      rw [Nat.testBit_lt_two_pow (first.trans_le high), Nat.testBit_lt_two_pow (second.trans_le high)]
  · intro same i inside
    have bits := congrArg (Nat.testBit · (count - 1 - i)) same
    have place : count - 1 - i + (width - count) = width - 1 - i := by omega
    simpa only [Nat.testBit_div_two_pow, place] using bits

/-- A number is in the block around another exactly if the quotients agree. -/
theorem block_iff {size a b : Nat} (positive : 0 < size) :
    (a / size * size ≤ b ∧ b ≤ a / size * size + (size - 1)) ↔ a / size = b / size := by
  rw [eq_comm (a := a / size), Nat.div_eq_iff positive, Nat.add_sub_assoc positive]

/-- The number with the given digits, the most significant first. -/
def number (size : Nat) (digits : List Nat) : Nat := digits.foldl (fun value digit => value * size + digit) 0

theorem number_snoc (size : Nat) (digits : List Nat) (digit : Nat) :
    number size (digits ++ [digit]) = number size digits * size + digit := by
  simp [number]

theorem number_lt {size : Nat} {digits : List Nat} (small : ∀ digit ∈ digits, digit < size) :
    number size digits < size ^ digits.length := by
  induction digits using List.reverseRecOn with
  | nil => simp [number]
  | append_singleton digits digit ih =>
    have before := ih fun earlier member => small earlier (by simp [member])
    have last := small digit (by simp)
    rw [number_snoc, List.length_append, List.length_singleton, Nat.pow_succ]
    calc number size digits * size + digit < number size digits * size + size := by omega
      _ = (number size digits + 1) * size := by rw [Nat.add_mul, Nat.one_mul]
      _ ≤ size ^ digits.length * size := Nat.mul_le_mul_right size before

end BitPrefix
