namespace Scopemark.Text

def size : List Char → Nat
  | [] => 0
  | c :: cs => c.utf8Size + size cs

def offsetsFrom (offset : Nat) : List Char → List Nat
  | [] => [offset]
  | c :: cs => offset :: offsetsFrom (offset + c.utf8Size) cs

/-- Where the character in a column starts. All columns behind the text are at the end of it. -/
def offsetOf (cs : List Char) (column : Nat) : Nat := (offsetsFrom 0 cs)[column]?.getD (size cs)

/-- What is in front of an offset, and what is behind it. No cut goes through a character. -/
def cutAt? : Nat → List Char → Option (List Char × List Char)
  | 0, cs => some ([], cs)
  | _ + 1, [] => none
  | offset + 1, c :: cs =>
    if c.utf8Size ≤ offset + 1 then
      (cutAt? (offset + 1 - c.utf8Size) cs).map fun (front, back) => (c :: front, back)
    else none

def slice? (start stop : Nat) (cs : List Char) : Option (List Char) := do
  let (front, _) ← cutAt? stop cs
  let (_, part) ← cutAt? start front
  return part

end Scopemark.Text
