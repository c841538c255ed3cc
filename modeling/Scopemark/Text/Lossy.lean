namespace Scopemark.Text

def replacement : Char := '\uFFFD'

/-- A character of which not all bytes are read. The next one lies between `low` and `high`, and then
there is one in each of the other ranges. -/
structure Opened where
  code : Nat
  low : Nat
  high : Nat
  more : List (Nat × Nat)
deriving DecidableEq, Repr

def innerBytes : Nat × Nat := (0x80, 0xBF)

def lead? (b : Nat) : Option (Nat × List (Nat × Nat)) :=
  if b < 0x80 then some (b, [])
  else if b < 0xC2 then none
  else if b < 0xE0 then some (b - 0xC0, [innerBytes])
  else if b = 0xE0 then some (0, [(0xA0, 0xBF), innerBytes])
  else if b = 0xED then some (0xD, [(0x80, 0x9F), innerBytes])
  else if b < 0xF0 then some (b - 0xE0, [innerBytes, innerBytes])
  else if b = 0xF0 then some (0, [(0x90, 0xBF), innerBytes, innerBytes])
  else if b < 0xF4 then some (b - 0xF0, [innerBytes, innerBytes, innerBytes])
  else if b = 0xF4 then some (4, [(0x80, 0x8F), innerBytes, innerBytes])
  else none

abbrev Decoded := List Char × Option Opened

def goOn (code : Nat) : List (Nat × Nat) → Decoded
  | [] => ([.ofNat code], none)
  | (low, high) :: more => ([], some ⟨code, low, high, more⟩)

def decodeLead (b : Nat) : Decoded :=
  match lead? b with
  | some (code, ranges) => goOn code ranges
  | none => ([replacement], none)

def decodeNext (b : Nat) : Option Opened → Decoded
  | none => decodeLead b
  | some o =>
    if o.low ≤ b ∧ b ≤ o.high then goOn (o.code * 64 + (b - 0x80)) o.more
    else
      let (cs, opened) := decodeLead b
      (replacement :: cs, opened)

def lossyFrom (opened : Option Opened) : List UInt8 → List Char
  | [] => if opened.isSome then [replacement] else []
  | b :: rest =>
    let (cs, opened) := decodeNext b.toNat opened
    cs ++ lossyFrom opened rest

/-- Bytes as text. The longest bytes that begin a character and do not end it are replaced as one. -/
def lossy (bytes : List UInt8) : List Char := lossyFrom none bytes

end Scopemark.Text
