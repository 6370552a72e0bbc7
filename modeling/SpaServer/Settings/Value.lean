import SpaServer.Binary64
import SpaServer.Text.Numeral

/-!
# Values given for settings

Settings given in a program may be any value a data format has; those of the environment and of an
environment file are texts. A value can be read as an integer, which no list and no object stands
for, or written as a text, which needs every integer in it to be short enough for a numeral. How
deep lists and objects are nested makes no difference here: running out of room on the way is left
to the machine, like running out of memory.
-/

namespace SpaServer

inductive Value
  | text (content : Text)
  | integer (n : Int)
  | real (x : Binary64)
  | truth (b : Bool)
  | null
  | list (items : List Value)
  | object (members : List (Text × Value))

namespace Value

inductive NoInteger
  | unusable
  | infinite
  deriving DecidableEq

/-- The integer that a value stands for: the number of a numeral, the integer part of a number, and
one or zero for a truth value. -/
def toInt? : Value → Except NoInteger Int
  | .text content => (Text.toInt? content).elim (.error .unusable) .ok
  | .integer n => .ok n
  | .real (.finite significand exponent) => .ok (Binary64.truncate significand exponent)
  | .real .infinite => .error .infinite
  | .real .nan => .error .unusable
  | .truth b => .ok (if b then 1 else 0)
  | .null => .error .unusable
  | .list _ => .error .unusable
  | .object _ => .error .unusable

mutual

/-- The integers that stand anywhere in a value. -/
def integers : Value → List Int
  | .integer n => [n]
  | .list items => itemIntegers items
  | .object members => memberIntegers members
  | _ => []

def itemIntegers : List Value → List Int
  | [] => []
  | item :: rest => item.integers ++ itemIntegers rest

def memberIntegers : List (Text × Value) → List Int
  | [] => []
  | (_, value) :: rest => value.integers ++ memberIntegers rest

end

/-- Whether a value can be written as a text. Numerals are bounded when they are written as they are
when they are read. -/
def isWritable (value : Value) : Bool :=
  value.integers.all fun n => n.natAbs < Nat.pow 10 Text.maxDigits

def isNull : Value → Bool
  | .null => true
  | _ => false

end Value

end SpaServer
