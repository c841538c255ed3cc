import Scopemark.Text.CharSet

namespace Scopemark.Text

def utf8Bytes (n : Nat) : List Nat :=
  if n < 0x80 then [n]
  else if n < 0x800 then [0xC0 + n / 64, 0x80 + n % 64]
  else if n < 0x10000 then [0xE0 + n / 4096, 0x80 + n / 64 % 64, 0x80 + n % 64]
  else [0xF0 + n / 262144, 0x80 + n / 4096 % 64, 0x80 + n / 64 % 64, 0x80 + n % 64]

abbrev ByteRanges := List (Nat × Nat)

def cutAtBlock? (a b size : Nat) : Option Nat :=
  if a / size = b / size then none
  else if a % size ≠ 0 then some (a / size * size + (size - 1))
  else if b % size ≠ size - 1 then some (b / size * size - 1)
  else none

/-- The last code point of the first piece, if a range has to be cut: first by the number of bytes,
then so that all bytes but one are the same or run through all their values. -/
def cutRange? (a b : Nat) : Option Nat :=
  match [0x7F, 0x7FF, 0xFFFF].find? fun last => a ≤ last && last < b with
  | some last => some last
  | none => if b < 0x80 then none else [64, 4096, 262144].findSome? (cutAtBlock? a b)

def piecesOf (a b : Nat) : List ByteRanges :=
  match cutRange? a b with
  | some m =>
    if a ≤ m ∧ m < b then piecesOf a m ++ piecesOf (m + 1) b
    else [(utf8Bytes a).zip (utf8Bytes b)]
  | none => [(utf8Bytes a).zip (utf8Bytes b)]
termination_by b - a

def byteSequences (a b : Nat) : List ByteRanges :=
  if a < 0xE000 ∧ 0xD7FF < b then
    (if a ≤ 0xD7FF then piecesOf a 0xD7FF else []) ++ (if 0xE000 ≤ b then piecesOf 0xE000 b else [])
  else piecesOf a b

end Scopemark.Text
