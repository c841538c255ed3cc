import Scopemark.Text.Digits

namespace Scopemark

inductive Json
  | null
  | bool (b : Bool)
  | number (digits : List Char)
  | string (s : Option String)
  | array (elements : List Json)
  | object (fields : List (Option String × Json))
deriving Inhabited, BEq

namespace Json

def text (s : String) : Json := .string (some s)

def texts (ss : List String) : Json := .array (ss.map text)

def record (fields : List (String × Json)) : Json :=
  .object (fields.map fun (k, v) => (some k, v))

def optional (name : String) (value : Option Json) : List (String × Json) :=
  match value with
  | none => []
  | some v => [(name, v)]

def unlessEmpty {α : Type} (name : String) (items : List α) (value : Json) : List (String × Json) :=
  if items.isEmpty then [] else [(name, value)]

def depthLimit : Nat := 127

/-- Digits that count and the power of ten that they count. -/
structure Decimal where
  significand : Nat
  exponent : Int

def signedDigits : List Char → Int
  | '-' :: digits => -(Text.decimalValue digits : Int)
  | '+' :: digits => Text.decimalValue digits
  | digits => Text.decimalValue digits

def appendDigits (n : Nat) : List Char → Nat × List Char
  | [] => (n, [])
  | c :: digits =>
    let m := 10 * n + Text.decimalValue [c]
    if m < Nat.pow 2 64 then appendDigits m digits else (n, c :: digits)

/-- A number as it is kept: digits that do not fit any more are dropped, and those before the point
leave their powers of ten. -/
def decimal (digits : List Char) : Decimal :=
  let (mantissa, power) := digits.span fun c => c != 'e' && c != 'E'
  let (whole, part) := mantissa.span (· != '.')
  let (n, left) := appendDigits 0 (whole.filter (· != '-'))
  let (n, dropped) := appendDigits n (part.drop 1)
  { significand := n
    exponent := left.length + dropped.length - (part.drop 1).length + signedDigits (power.drop 1) }

/-- Rounds a number to 53 bits, and a tie to the even neighbour. -/
def roundToFloat (n : Nat) : Nat :=
  let unit := Nat.pow 2 (n.log2 + 1 - 53)
  let quotient := n / unit
  let up := unit < 2 * (n % unit) || (2 * (n % unit) == unit && quotient % 2 == 1)
  (if up then quotient + 1 else quotient) * unit

def infiniteFrom : Nat := Nat.pow 2 1024 - Nat.pow 2 970

def largestPower : Nat := 308

def finite (digits : List Char) : Bool :=
  let d := decimal digits
  if d.significand = 0 ∨ d.exponent < 0 then true
  else if (largestPower : Int) < d.exponent then false
  else roundToFloat d.significand * roundToFloat (Nat.pow 10 d.exponent.toNat) < infiniteFrom

/-- The value can be kept as a whole: no string is broken, no number too large, and nothing is nested
deeper than `depth`. -/
def isWhole : Nat → Json → Bool
  | _, null | _, bool _ => true
  | _, number digits => finite digits
  | _, string s => s.isSome
  | 0, array _ | 0, object _ => false
  | depth + 1, array elements => elements.all (isWhole depth)
  | depth + 1, object fields => fields.all fun (key, value) => key.isSome && isWhole depth value

end Json

end Scopemark
