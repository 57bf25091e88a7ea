/-!
# The natural that a run of digits writes

A numeral may have hundreds of thousands of digits, and taking them one by one
multiplies an ever longer number by the base. Here neighbours are joined two by
two to digits of the squared base, again and again until a single digit is
left, which multiplies numbers of about equal length only. `ofDigits_eq_foldr`
says that the value is the one that digit by digit evaluation gives.
-/

namespace ReplLink.Decimal

/-- Digits in a base, the lowest first, as digits in the squared base. -/
def joinPairs (base : Nat) : List Nat → List Nat
  | low :: high :: rest => (low + base * high) :: joinPairs base rest
  | short => short

theorem length_joinPairs_le (base : Nat) (digits : List Nat) :
    (joinPairs base digits).length ≤ digits.length := by
  fun_induction joinPairs base digits with
  | case1 low high rest ih =>
    simp only [List.length_cons]
    omega
  | case2 digits short => exact Nat.le_refl digits.length

/-- The value of digits in a base, the lowest first. -/
def ofDigits (base : Nat) : List Nat → Nat
  | [] => 0
  | [digit] => digit
  | low :: high :: rest => ofDigits (base * base) ((low + base * high) :: joinPairs base rest)
termination_by digits => digits.length
decreasing_by
  have := length_joinPairs_le base rest
  simp only [List.length_cons]
  omega

/-- Joining neighbours keeps the value. -/
theorem foldr_joinPairs (base : Nat) (digits : List Nat) :
    (joinPairs base digits).foldr (fun digit value => digit + base * base * value) 0
      = digits.foldr (fun digit value => digit + base * value) 0 := by
  fun_induction joinPairs base digits with
  | case1 low high rest ih =>
    rw [List.foldr_cons, ih, List.foldr_cons, List.foldr_cons, Nat.mul_add, Nat.mul_assoc,
      Nat.add_assoc]
  | case2 digits short =>
    match digits with
    | [] => rfl
    | [_] => simp
    | low :: high :: rest => exact absurd rfl (short low high rest)

/-- The value is the one that Horner's rule gives. -/
theorem ofDigits_eq_foldr (base : Nat) (digits : List Nat) :
    ofDigits base digits = digits.foldr (fun digit value => digit + base * value) 0 := by
  fun_induction ofDigits base digits with
  | case1 => rfl
  | case2 => simp
  | case3 base low high rest ih =>
    rw [ih]
    exact foldr_joinPairs base (low :: high :: rest)

end ReplLink.Decimal
