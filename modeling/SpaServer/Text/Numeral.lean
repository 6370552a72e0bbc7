import SpaServer.Text.Blank
import SpaServer.Text.Digit

/-!
# Integer numerals

The reading of decimal integers: blank characters around, one optional sign, and digits of any
script, between which single underscores may stand. A numeral has at most `maxDigits` digits,
leading zeros included.
-/

namespace SpaServer.Text

def maxDigits : Nat := 4300

/-- The values of the digits of `text`, which has at least one and may have a single underscore
between two. -/
def digits? : Text → Option (List Nat)
  | [] => none
  | [c] => (digitValue? c).map fun d => [d]
  | c :: '_' :: rest =>
    match digitValue? c, digits? rest with
    | some d, some ds => some (d :: ds)
    | _, _ => none
  | c :: rest =>
    match digitValue? c, digits? rest with
    | some d, some ds => some (d :: ds)
    | _, _ => none

def digitsValue (ds : List Nat) : Nat :=
  ds.foldl (fun n d => 10 * n + d) 0

def toNat? (text : Text) : Option Nat :=
  match digits? text with
  | some ds => if ds.length ≤ maxDigits then some (digitsValue ds) else none
  | none => none

def toInt? (text : Text) : Option Int :=
  match trim isNumeralBlank text with
  | '+' :: rest => (toNat? rest).map fun n => (n : Int)
  | '-' :: rest => (toNat? rest).map fun n => -(n : Int)
  | unsigned => (toNat? unsigned).map fun n => (n : Int)

end SpaServer.Text
