namespace Scopemark.Text

/-- The quotient rounded to the nearest number, and from halfway between two to the even one. -/
def roundedDiv (n d : Nat) : Nat :=
  let q := n / d
  let r := n % d
  if d < 2 * r ∨ (2 * r = d ∧ q % 2 = 1) then q + 1 else q

def unitOf (nanoseconds : Nat) : Nat × String :=
  if 1000000000 ≤ nanoseconds then (1000000000, "s")
  else if 1000000 ≤ nanoseconds then (1000000, "ms")
  else if 1000 ≤ nanoseconds then (1000, "µs")
  else (1, "ns")

def twoDigits (n : Nat) : String := if n < 10 then "0" ++ toString n else toString n

def duration (nanoseconds : Nat) : String :=
  let (unit, sign) := unitOf nanoseconds
  let hundredths := roundedDiv (nanoseconds * 100) unit
  toString (hundredths / 100) ++ "." ++ twoDigits (hundredths % 100) ++ sign

end Scopemark.Text
