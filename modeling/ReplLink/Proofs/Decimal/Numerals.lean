import Mathlib.Algebra.Group.Nat.Defs
import ReplLink.Decimal.Numeral
import ReplLink.Proofs.Decimal.Characters

/-!
# Numerals piece by piece

A decimal numeral is read in pieces: its sign, the digits in front of the point, those behind
it, and the power of ten. Each reader takes its piece whatever stands behind, as long as that
does not start with a digit.
-/

namespace ReplLink.Decimal

open ReplLink.Text

section Values

/-- Digits that are read go on from the value of those in front of them. -/
theorem foldl_digitValue (digits : List Char) (value : Nat) :
    digits.foldl (fun value digit => 10 * value + Ascii.digitValue digit) value
      = value * 10 ^ digits.length + naturalOfDigits digits := by
  rw [naturalOfDigits_eq_foldl]
  induction digits generalizing value with
  | nil => simp
  | cons digit rest ih =>
    rw [List.foldl_cons, List.foldl_cons, ih, ih (10 * 0 + Ascii.digitValue digit),
      List.length_cons, Nat.pow_succ', Nat.mul_zero, Nat.zero_add, Nat.add_mul,
      Nat.mul_comm 10 value, Nat.mul_assoc, Nat.add_assoc]

theorem naturalOfDigits_append (front back : List Char) :
    naturalOfDigits (front ++ back)
      = naturalOfDigits front * 10 ^ back.length + naturalOfDigits back := by
  rw [naturalOfDigits_eq_foldl (front ++ back), List.foldl_append, foldl_digitValue,
    ← naturalOfDigits_eq_foldl]

theorem naturalOfDigits_zeros (count : Nat) :
    naturalOfDigits (List.replicate count '0') = 0 := by
  rw [naturalOfDigits_eq_foldl]
  induction count with
  | zero => rfl
  | succ count ih => exact ih

/-- Zeros in front of digits do not count, -/
theorem naturalOfDigits_zeros_append (count : Nat) (digits : List Char) :
    naturalOfDigits (List.replicate count '0' ++ digits) = naturalOfDigits digits := by
  rw [naturalOfDigits_append, naturalOfDigits_zeros, Nat.zero_mul, Nat.zero_add]

/-- and those behind them count as powers of ten. -/
theorem naturalOfDigits_append_zeros (digits : List Char) (count : Nat) :
    naturalOfDigits (digits ++ List.replicate count '0') = naturalOfDigits digits * 10 ^ count := by
  rw [naturalOfDigits_append, naturalOfDigits_zeros, List.length_replicate, Nat.add_zero]

/-- The digits of a natural have its value. -/
theorem naturalOfDigits_toDigits (n : Nat) : naturalOfDigits (Nat.toDigits 10 n) = n := by
  rw [naturalOfDigits_eq_foldl]
  exact (Nat.ofDigitChars_eq_foldl (b := 10)).symm.trans Nat.ofDigitChars_ten_toDigits

/-- An exponent below the bound is read to its end. -/
theorem exponentOfDigits_eq {digits : List Char} (h : naturalOfDigits digits < exponentBound) :
    exponentOfDigits digits = naturalOfDigits digits := by
  have hall (rest : List Char) (value : Nat)
      (hr : rest.foldl (fun value digit => 10 * value + Ascii.digitValue digit) value
        < exponentBound) :
      rest.foldl (fun value digit =>
          if value < exponentBound then 10 * value + Ascii.digitValue digit else value) value
        = rest.foldl (fun value digit => 10 * value + Ascii.digitValue digit) value := by
    induction rest generalizing value with
    | nil => rfl
    | cons digit rest ih =>
      -- More digits never make the value smaller, so the bound is not reached on the way.
      have hvalue : value < exponentBound := by
        rw [foldl_digitValue] at hr
        have hpow : 0 < 10 ^ (digit :: rest).length := Nat.pow_pos (by decide)
        have hle := Nat.le_mul_of_pos_right value hpow
        omega
      rw [List.foldl_cons, List.foldl_cons, if_pos hvalue]
      exact ih _ hr
  rw [naturalOfDigits_eq_foldl] at h ⊢
  exact hall digits 0 h

end Values

section Pieces

/-- A text that starts with a digit has no sign. -/
theorem splitSign_of_digit {text : List Char} (hd : ∀ c ∈ text.head?, Ascii.isDigit c = true) :
    splitSign text = (false, text) := by
  unfold splitSign
  split
  · exact absurd (hd '-' rfl) (by decide)
  · exact absurd (hd '+' rfl) (by decide)
  · rfl

/-- No digit comes next. -/
def EndsDigits (rest : List Char) : Prop := ∀ c ∈ rest.head?, Ascii.isDigit c = false

theorem endsDigits_nil : EndsDigits [] := fun _ hc => absurd hc (by simp)

theorem splitDigits_append {digits rest : List Char}
    (hd : ∀ c ∈ digits, Ascii.isDigit c = true) (hr : EndsDigits rest) :
    splitDigits (digits ++ rest) = (digits, rest) := by
  unfold splitDigits
  rw [List.takeWhile_append_of_pos hd, List.dropWhile_append_of_pos hd]
  cases rest with
  | nil => simp
  | cons c rest =>
    have hc : Ascii.isDigit c = false := hr c rfl
    rw [List.takeWhile_cons_of_neg (by simp [hc]), List.dropWhile_cons_of_neg (by simp [hc]),
      List.append_nil]

/-- A run of digits is an integer numeral, with a sign in front of it or without. -/
theorem signed?_of_splitSign {value : List Char → Nat} {text digits : List Char} {negative : Bool}
    (hs : splitSign text = (negative, digits)) (hne : digits ≠ [])
    (hd : ∀ c ∈ digits, Ascii.isDigit c = true) :
    signed? value text = some (if negative then -(value digits : Int) else value digits) := by
  have hall : digits.all Ascii.isDigit = true := List.all_eq_true.mpr hd
  cases negative <;> simp [signed?, hs, hall, hne]

/-- A text with anything else in it is none. -/
theorem signed?_eq_none (value : List Char → Nat) {text : List Char} {c : Char}
    (hc : c ∈ (splitSign text).2) (hd : Ascii.isDigit c = false) : signed? value text = none := by
  have hall : (splitSign text).2.all Ascii.isDigit = false :=
    List.all_eq_false.mpr ⟨c, hc, by simp [hd]⟩
  simp [signed?, hall]

variable {text whole places power : List Char} {negative : Bool}

/-- A numeral may have a point behind its first digits. -/
theorem ofText?_point (hs : splitSign text = (negative, whole ++ '.' :: (places ++ power)))
    (hne : whole ≠ []) (hw : ∀ c ∈ whole, Ascii.isDigit c = true)
    (hp : ∀ c ∈ places, Ascii.isDigit c = true) (he : EndsDigits power) :
    Numeral.ofText? text
      = (exponent? power).map fun exponent =>
        ⟨negative, naturalOfDigits (whole ++ places), exponent - places.length⟩ := by
  have hpoint : EndsDigits ('.' :: (places ++ power)) := fun c hc => by
    obtain rfl := Option.some.inj hc
    decide
  unfold Numeral.ofText?
  rw [hs]
  dsimp only
  rw [splitDigits_append hw hpoint]
  simp only [splitDigits_append hp he]
  simp [hne]

/-- Or it has none. -/
theorem ofText?_whole (hs : splitSign text = (negative, whole ++ power)) (hne : whole ≠ [])
    (hw : ∀ c ∈ whole, Ascii.isDigit c = true) (he : EndsDigits power)
    (hp : '.' ∉ power.head?) :
    Numeral.ofText? text
      = (exponent? power).map fun exponent => ⟨negative, naturalOfDigits whole, exponent⟩ := by
  unfold Numeral.ofText?
  rw [hs]
  dsimp only
  rw [splitDigits_append hw he]
  dsimp only
  split
  · exact absurd rfl hp
  · simp [hne]

/-- The power of ten of an exponent below the bound, with a sign in front of it or not. -/
theorem exponent?_written {sign : List Char} (hs : sign = [] ∨ sign = ['+']) {exponent : Int}
    (hb : exponent.natAbs < exponentBound) :
    exponent? ('e' :: if exponent < 0 then '-' :: Nat.toDigits 10 exponent.natAbs
        else sign ++ Nat.toDigits 10 exponent.natAbs) = some exponent := by
  have hdigits : ∀ c ∈ Nat.toDigits 10 exponent.natAbs, Ascii.isDigit c = true :=
    fun c hc => isDigit_of_mem_toDigits hc
  have hvalue : exponentOfDigits (Nat.toDigits 10 exponent.natAbs) = exponent.natAbs := by
    have hnatural := naturalOfDigits_toDigits exponent.natAbs
    rw [exponentOfDigits_eq (by rw [hnatural]; exact hb), hnatural]
  rw [exponent?, if_pos (by decide)]
  split
  · have hsplit : splitSign ('-' :: Nat.toDigits 10 exponent.natAbs)
        = (true, Nat.toDigits 10 exponent.natAbs) := rfl
    rw [signed?_of_splitSign hsplit Nat.toDigits_ne_nil hdigits, hvalue]
    exact congrArg some (by rw [if_pos rfl]; omega)
  · have hsplit : splitSign (sign ++ Nat.toDigits 10 exponent.natAbs)
        = (false, Nat.toDigits 10 exponent.natAbs) := by
      rcases hs with rfl | rfl
      · exact splitSign_of_digit fun c hc => hdigits c (List.mem_of_mem_head? hc)
      · rfl
    rw [signed?_of_splitSign hsplit Nat.toDigits_ne_nil hdigits, hvalue]
    exact congrArg some (by rw [if_neg (by decide)]; omega)

end Pieces

end ReplLink.Decimal
