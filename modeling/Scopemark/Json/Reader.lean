import Scopemark.Json.Basic

namespace Scopemark.Json

def isSpace (c : Char) : Bool := c == ' ' || c == '\t' || c == '\n' || c == '\r'

def skipSpace (cs : List Char) : List Char := cs.dropWhile isSpace

def joinSurrogates : List Nat → Option (List Char)
  | [] => some []
  | [n] => if n.isValidChar then some [Char.ofNat n] else none
  | n :: m :: rest =>
    if 0xD800 ≤ n ∧ n < 0xDC00 ∧ 0xDC00 ≤ m ∧ m < 0xE000 then
      (joinSurrogates rest).map (Char.ofNat (0x10000 + (n - 0xD800) * 0x400 + (m - 0xDC00)) :: ·)
    else if n.isValidChar then (joinSurrogates (m :: rest)).map (Char.ofNat n :: ·)
    else none

def readHex (cs : List Char) : Option (Nat × List Char) :=
  match cs with
  | a :: b :: c :: d :: rest =>
    if [a, b, c, d].all fun c => (Text.hexDigit? c).isSome then
      some (Text.hexValue [a, b, c, d], rest)
    else none
  | _ => none

def escape? (c : Char) : Option Char :=
  match c with
  | '\x22' => some '\x22'
  | '\\' => some '\\'
  | '/' => some '/'
  | 'b' => some '\x08'
  | 'f' => some '\x0c'
  | 'n' => some '\n'
  | 'r' => some '\r'
  | 't' => some '\t'
  | _ => none

def readCodes : Nat → List Char → Option (List Nat × List Char)
  | 0, _ => none
  | _, [] => none
  | fuel + 1, c :: rest =>
    if c == '\x22' then some ([], rest)
    else if c.toNat < 0x20 then none
    else if c != '\\' then (readCodes fuel rest).map fun (codes, rest) => (c.toNat :: codes, rest)
    else
      match rest with
      | [] => none
      | 'u' :: rest =>
        match readHex rest with
        | none => none
        | some (n, rest) => (readCodes fuel rest).map fun (codes, rest) => (n :: codes, rest)
      | e :: rest =>
        match escape? e with
        | none => none
        | some c => (readCodes fuel rest).map fun (codes, rest) => (c.toNat :: codes, rest)

def readString (cs : List Char) : Option (Option String × List Char) :=
  (readCodes (cs.length + 1) cs).map fun (codes, rest) =>
    ((joinSurrogates codes).map String.ofList, rest)

def isDigit (c : Char) : Bool := (Text.decimalDigit? c).isSome

def readDigits (cs : List Char) : Option (List Char × List Char) :=
  let (digits, rest) := cs.span isDigit
  if digits.isEmpty then none else some (digits, rest)

def readWhole (cs : List Char) : Option (List Char × List Char) :=
  match readDigits cs with
  | some ('0' :: _ :: _, _) => none
  | whole => whole

def readPart (cs : List Char) : Option (List Char × List Char) :=
  match cs with
  | '.' :: rest => (readDigits rest).map fun (digits, rest) => ('.' :: digits, rest)
  | rest => some ([], rest)

def readSign (cs : List Char) : List Char × List Char :=
  match cs with
  | '+' :: rest => (['+'], rest)
  | '-' :: rest => (['-'], rest)
  | rest => ([], rest)

def readPower (cs : List Char) : Option (List Char × List Char) :=
  match cs with
  | c :: rest =>
    if c == 'e' || c == 'E' then
      let (sign, rest) := readSign rest
      (readDigits rest).map fun (digits, rest) => (c :: sign ++ digits, rest)
    else some ([], c :: rest)
  | [] => some ([], [])

def readNumber (cs : List Char) : Option (List Char × List Char) := do
  let (sign, cs) := match cs with
    | '-' :: rest => (['-'], rest)
    | rest => ([], rest)
  let (whole, cs) ← readWhole cs
  let (part, cs) ← readPart cs
  let (power, cs) ← readPower cs
  return (sign ++ whole ++ part ++ power, cs)

def readWord (word : String) (value : Json) (cs : List Char) : Option (Json × List Char) :=
  if word.toList.isPrefixOf cs then some (value, cs.drop word.length) else none

mutual

def readValue : Nat → List Char → Option (Json × List Char)
  | 0, _ => none
  | _, [] => none
  | fuel + 1, c :: rest =>
    match c with
    | 'n' => readWord "null" .null (c :: rest)
    | 't' => readWord "true" (.bool true) (c :: rest)
    | 'f' => readWord "false" (.bool false) (c :: rest)
    | '\x22' => (readString rest).map fun (s, rest) => (.string s, rest)
    | '[' =>
      match skipSpace rest with
      | ']' :: rest => some (.array [], rest)
      | rest => (readElements fuel rest).map fun (elements, rest) => (.array elements, rest)
    | '\x7b' =>
      match skipSpace rest with
      | '\x7d' :: rest => some (.object [], rest)
      | rest => (readFields fuel rest).map fun (fields, rest) => (.object fields, rest)
    | c => (readNumber (c :: rest)).map fun (digits, rest) => (.number digits, rest)

def readElements : Nat → List Char → Option (List Json × List Char)
  | 0, _ => none
  | fuel + 1, cs =>
    match readValue fuel cs with
    | none => none
    | some (value, rest) =>
      match skipSpace rest with
      | ']' :: rest => some ([value], rest)
      | ',' :: rest =>
        (readElements fuel (skipSpace rest)).map fun (values, rest) => (value :: values, rest)
      | _ => none

def readFields : Nat → List Char → Option (List (Option String × Json) × List Char)
  | 0, _ => none
  | fuel + 1, cs =>
    match cs with
    | '\x22' :: rest =>
      match readString rest with
      | none => none
      | some (key, rest) =>
        match skipSpace rest with
        | ':' :: rest =>
          match readValue fuel (skipSpace rest) with
          | none => none
          | some (value, rest) =>
            match skipSpace rest with
            | '\x7d' :: rest => some ([(key, value)], rest)
            | ',' :: rest =>
              (readFields fuel (skipSpace rest)).map fun (fields, rest) =>
                ((key, value) :: fields, rest)
            | _ => none
        | _ => none
    | _ => none

end

/-- Reads a document: one value with nothing but space around it. Every call of a reader takes a
character or enters an element, so twice the length is fuel enough. -/
def read? (cs : List Char) : Option Json :=
  match readValue (2 * cs.length + 2) (skipSpace cs) with
  | some (value, rest) => if (skipSpace rest).isEmpty then some value else none
  | none => none

end Scopemark.Json
