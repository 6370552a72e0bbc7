/-!
# Binary floating-point numbers

The floating-point numbers of 64 bits as exact values, `significand * 2 ^ exponent`. A decimal is
brought to the nearest of them, halves to the even significand, in exact arithmetic; above the
largest finite number it becomes infinite. The integer part is then exact, too.
-/

namespace SpaServer

inductive Binary64
  | finite (significand exponent : Int)
  | infinite
  | nan
  deriving DecidableEq

namespace Binary64

/-- The natural number nearest to `numerator / denominator`, the even one of two. -/
def roundDiv (numerator denominator : Nat) : Nat :=
  let quotient := numerator / denominator
  let twice := 2 * (numerator % denominator)
  if twice < denominator ∨ (twice = denominator ∧ quotient % 2 = 0) then quotient
  else quotient + 1

/-- `numerator / (denominator * 2 ^ exponent)`, rounded. -/
def scaled (numerator denominator : Nat) : Int → Nat
  | .ofNat k => roundDiv numerator (denominator * Nat.pow 2 k)
  | .negSucc k => roundDiv (numerator * Nat.pow 2 (k + 1)) denominator

/-- The exponent at which `numerator / denominator` has a significand of 53 bits, or the smallest
exponent there is. -/
def exponentOf (numerator denominator : Nat) : Int :=
  let guess : Int := (Nat.log2 numerator : Int) - (Nat.log2 denominator : Int) - 52
  let fits : Bool := match guess with
    | .ofNat k => decide (denominator * Nat.pow 2 (k + 52) ≤ numerator)
    | .negSucc k => decide (denominator * Nat.pow 2 52 ≤ numerator * Nat.pow 2 (k + 1))
  max (if fits then guess else guess - 1) (-1074)

/-- The nearest number to `numerator / denominator`, with the sign given apart. -/
def ofRatio (negative : Bool) (numerator denominator : Nat) : Binary64 :=
  let exponent := exponentOf numerator denominator
  let significand := scaled numerator denominator exponent
  if exponent > 971 ∨ (exponent = 971 ∧ significand = Nat.pow 2 53) then .infinite
  else .finite (if negative then -significand else significand) exponent

/-- The nearest number to `digits * 10 ^ exponent`. Decimals far outside the range of the format are
told by their size alone. -/
def ofDecimal (negative : Bool) (digits : Nat) (exponent : Int) : Binary64 :=
  if digits = 0 ∨ exponent < -(400 + Nat.log2 digits : Int) then .finite 0 0
  else if exponent > 400 then .infinite
  else match exponent with
    | .ofNat k => ofRatio negative (digits * Nat.pow 10 k) 1
    | .negSucc k => ofRatio negative digits (Nat.pow 10 (k + 1))

/-- The integer part of a finite number, toward zero. -/
def truncate (significand exponent : Int) : Int :=
  match exponent with
  | .ofNat k => significand * (Nat.pow 2 k : Nat)
  | .negSucc k => significand.tdiv (Nat.pow 2 (k + 1) : Nat)

end Binary64

end SpaServer
