import Scopemark.Pattern.Flags
import Scopemark.Unicode.Query
import Scopemark.Text.Blank

namespace Scopemark.Pattern

def dropComments (inComment : Bool) : List Char → List Char
  | [] => []
  | c :: rest =>
    if inComment then dropComments (c != '\n') rest
    else if Text.isBlank c then dropComments false rest
    else if c == '#' then dropComments true rest
    else c :: rest

def skip (flags : Flags) (cs : List Char) : List Char :=
  if flags.verbose then dropComments false cs else cs

def readRun (flags : Flags) (p : Char → Bool) (inComment : Bool) :
    List Char → List Char × List Char
  | [] => ([], [])
  | c :: rest =>
    if inComment then readRun flags p (c != '\n') rest
    else if p c then
      let (run, rest) := readRun flags p false rest
      (c :: run, rest)
    else if flags.verbose && Text.isBlank c then readRun flags p false rest
    else if flags.verbose && c == '#' then readRun flags p true rest
    else ([], c :: rest)

def readBraced (flags : Flags) (inComment : Bool) :
    List Char → Option (List Char × List Char)
  | [] => none
  | c :: rest =>
    if inComment then readBraced flags (c != '\n') rest
    else if flags.verbose && Text.isBlank c then readBraced flags false rest
    else if flags.verbose && c == '#' then readBraced flags true rest
    else if c == '}' then some ([], rest)
    else (readBraced flags false rest).map fun (run, rest) => (c :: run, rest)

def isDecimal (c : Char) : Bool := (Text.decimalDigit? c).isSome

def isHex (c : Char) : Bool := (Text.hexDigit? c).isSome

def countLimit : Nat := Nat.pow 2 32

def readCount (flags : Flags) (cs : List Char) : Except Fault (Nat × List Char) :=
  let (digits, rest) := readRun flags isDecimal false (cs.dropWhile Text.isBlank)
  if digits.isEmpty ∨ countLimit ≤ Text.decimalValue digits then .error .countInvalid
  else .ok (Text.decimalValue digits, rest.dropWhile Text.isBlank)

structure Bounds where
  least : Nat
  most : Option Nat

def readBounds (flags : Flags) (cs : List Char) : Except Fault (Bounds × List Char) := do
  let (least, rest) ← readCount flags (skip flags cs)
  match rest with
  | '}' :: rest => return (⟨least, some least⟩, rest)
  | ',' :: rest =>
    match skip flags rest with
    | '}' :: rest => return (⟨least, none⟩, rest)
    | rest =>
      let (most, rest) ← readCount flags rest
      match rest with
      | '}' :: rest => if least ≤ most then return (⟨least, some most⟩, rest) else throw .countInvalid
      | _ => throw .countInvalid
  | _ => throw .countInvalid

def codePoint (digits : List Char) : Except Fault Char :=
  let n := Text.hexValue digits
  if n.isValidChar then .ok (Char.ofNat n) else .error .codePointInvalid

def readHex (flags : Flags) : Nat → List Char → Except Fault (List Char × List Char)
  | 0, cs => .ok ([], cs)
  | _ + 1, [] => .error .escapeUnfinished
  | n + 1, c :: rest =>
    if isHex c then do
      let (digits, rest) ← readHex flags n (if n = 0 then rest else skip flags rest)
      return (c :: digits, rest)
    else .error .codePointInvalid

/-- What one element of a pattern stands for. A character given by two hexadecimal digits is a byte
where there is no Unicode. -/
inductive Element
  | char (c : Char) (byte : Bool)
  | set (s : CharSet)
  | look (l : Look)

def readCodePoint (flags : Flags) (width : Nat) (cs : List Char) :
    Except Fault (Element × List Char) := do
  match skip flags cs with
  | [] => throw .escapeUnfinished
  | '{' :: rest =>
    match readBraced flags false rest with
    | none => throw .escapeUnfinished
    | some (digits, rest) =>
      if digits.isEmpty || !digits.all isHex then throw .codePointInvalid
      else return (.char (← codePoint digits) false, rest)
  | rest =>
    let (digits, rest) ← readHex flags width rest
    return (.char (← codePoint digits) (width == 2), rest)

def propertySet (flags : Flags) (negated : Bool) (query : List Char) : Except Fault CharSet :=
  if !flags.unicode then .error .needsUnicode
  else
    match Unicode.query? query with
    | none => .error .propertyUnknown
    | some (s, relation) => flags.foldAndNegate (negated != (relation == .fails)) s

def propertyLetter (flags : Flags) (negated : Bool) (letter : Char) : Except Fault CharSet :=
  if !flags.unicode then .error .needsUnicode
  else
    match Unicode.ofName? [letter] with
    | none => .error .propertyUnknown
    | some s => flags.foldAndNegate negated s

def readProperty (flags : Flags) (negated : Bool) (cs : List Char) :
    Except Fault (Element × List Char) := do
  match skip flags cs with
  | [] => throw .escapeUnfinished
  | '\\' :: _ => throw .propertyUnknown
  | '{' :: rest =>
    match readBraced flags false rest with
    | none => throw .escapeUnfinished
    | some (query, rest) => return (.set (← propertySet flags negated query), rest)
  | c :: rest => return (.set (← propertyLetter flags negated c), rest)

def isEdgeLetter (c : Char) : Bool := c.isAlpha || c == '-'

def wordEdge? (name : String) : Option WordLook :=
  match name with
  | "start" => some .start
  | "end" => some .stop
  | "start-half" => some .startHalf
  | "end-half" => some .stopHalf
  | _ => none

/-- Reads what may follow `\b` in braces. If no letter comes first the brace is that of a
repetition. -/
def readWordEdge (flags : Flags) (cs : List Char) : Except Fault (Element × List Char) :=
  match cs with
  | '{' :: rest =>
    match skip flags rest with
    | [] => .error .escapeUnfinished
    | c :: inner =>
      if !isEdgeLetter c then .ok (.look (.word .edge flags.unicode), cs)
      else
        match readRun flags isEdgeLetter false (c :: inner) with
        | (name, '}' :: rest) =>
          match wordEdge? (.ofList name) with
          | some look => .ok (.look (.word look flags.unicode), rest)
          | none => .error .wordEdgeUnknown
        | _ => .error .wordEdgeUnknown
  | _ => .ok (.look (.word .edge flags.unicode), cs)

def standsForItself (c : Char) : Bool :=
  c.toNat < 128 && !c.isAlphanum && c != '<' && c != '>'

def readEscape (flags : Flags) (cs : List Char) : Except Fault (Element × List Char) :=
  match cs with
  | [] => .error .escapeUnfinished
  | c :: rest =>
    if isDecimal c then .error .backReference
    else if c == 'x' then readCodePoint flags 2 rest
    else if c == 'u' then readCodePoint flags 4 rest
    else if c == 'U' then readCodePoint flags 8 rest
    else if c == 'p' || c == 'P' then readProperty flags (c == 'P') rest
    else if standsForItself c then .ok (.char c false, rest)
    else
      match flags.shorthand? c with
      | some s => s.map fun s => (.set s, rest)
      | none =>
        match c with
        | 'a' => .ok (.char '\x07' false, rest)
        | 'f' => .ok (.char '\x0c' false, rest)
        | 't' => .ok (.char '\t' false, rest)
        | 'n' => .ok (.char '\n' false, rest)
        | 'r' => .ok (.char '\r' false, rest)
        | 'v' => .ok (.char '\x0b' false, rest)
        | 'A' => .ok (.look .textStart, rest)
        | 'z' => .ok (.look .textStop, rest)
        | 'b' => readWordEdge flags rest
        | 'B' => .ok (.look (.word .notEdge flags.unicode), rest)
        | '<' => .ok (.look (.word .start flags.unicode), rest)
        | '>' => .ok (.look (.word .stop flags.unicode), rest)
        | _ => .error .escapeUnknown

end Scopemark.Pattern
