import Scopemark.Pattern.Expr

namespace Scopemark.Pattern

inductive Fault
  | tooDeep
  | tooLarge
  | groupUnopened
  | groupUnclosed
  | groupNameInvalid
  | groupNameRepeated
  | lookAround
  | flagUnknown
  | flagRepeated
  | flagsUnfinished
  | nothingToRepeat
  | countInvalid
  | classUnclosed
  | classRangeInvalid
  | classMember
  | escapeUnfinished
  | escapeUnknown
  | backReference
  | codePointInvalid
  | propertyUnknown
  | wordEdgeUnknown
  | needsUnicode
deriving DecidableEq, Repr

def Fault.message : Fault → String
  | .tooDeep => "pattern is nested too deeply"
  | .tooLarge => "pattern is too large"
  | .groupUnopened => "`)` closes no group"
  | .groupUnclosed => "group is not closed"
  | .groupNameInvalid => "group name is empty or has an invalid character"
  | .groupNameRepeated => "group name is used twice"
  | .lookAround => "look-around is not supported"
  | .flagUnknown => "unknown flag"
  | .flagRepeated => "flag is given twice"
  | .flagsUnfinished => "flags are not finished"
  | .nothingToRepeat => "repetition has nothing to repeat"
  | .countInvalid => "invalid repetition count"
  | .classUnclosed => "character class is not closed"
  | .classRangeInvalid => "character range ends before it starts"
  | .classMember => "not a member of a character class"
  | .escapeUnfinished => "escape is not finished"
  | .escapeUnknown => "unknown escape"
  | .backReference => "back-references are not supported"
  | .codePointInvalid => "not a code point"
  | .propertyUnknown => "unknown character property"
  | .wordEdgeUnknown => "unknown kind of word boundary"
  | .needsUnicode => "not possible without Unicode"

structure Flags where
  ignoreCase : Bool := false
  multiLine : Bool := false
  dotAll : Bool := false
  swapGreed : Bool := false
  unicode : Bool := true
  crlf : Bool := false
  verbose : Bool := false
deriving DecidableEq, Repr

def Flags.set? (flags : Flags) (letter : Char) (on : Bool) : Option Flags :=
  match letter with
  | 'i' => some { flags with ignoreCase := on }
  | 'm' => some { flags with multiLine := on }
  | 's' => some { flags with dotAll := on }
  | 'U' => some { flags with swapGreed := on }
  | 'u' => some { flags with unicode := on }
  | 'R' => some { flags with crlf := on }
  | 'x' => some { flags with verbose := on }
  | _ => none

namespace Flags

variable (flags : Flags)

def asciiLetters : CharSet := .readTable "41-5A 61-7A"

def foldAscii (s : CharSet) : CharSet :=
  let letters := s.inter asciiLetters
  s.union (.ofRanges (letters.ranges.toList.flatMap fun (a, b) =>
    [(if a < 0x61 then a + 0x20 else a - 0x20, if b < 0x61 then b + 0x20 else b - 0x20)]))

def fold (s : CharSet) : CharSet :=
  if !flags.ignoreCase then s
  else if flags.unicode then Unicode.foldClosure s
  else foldAscii s

/-- Without Unicode no set may leave ASCII, which a complement always does. -/
def negate (negated : Bool) (s : CharSet) : Except Fault CharSet :=
  if !negated then .ok s
  else if flags.unicode then .ok s.compl
  else .error .needsUnicode

def foldAndNegate (negated : Bool) (s : CharSet) : Except Fault CharSet :=
  flags.negate negated (flags.fold s)

def charSet (c : Char) : CharSet := flags.fold (.singleton c)

def dot : Except Fault CharSet :=
  if !flags.unicode then .error .needsUnicode
  else if flags.dotAll then .ok .all
  else if flags.crlf then .ok (CharSet.readTable "A D").compl
  else .ok (CharSet.singleton '\n').compl

def lineStart : Look :=
  if !flags.multiLine then .textStart else if flags.crlf then .crlfStart else .lineStart

def lineStop : Look :=
  if !flags.multiLine then .textStop else if flags.crlf then .crlfStop else .lineStop

def shorthand? (letter : Char) : Option (Except Fault CharSet) :=
  let choose (negated : Bool) (full ascii : CharSet) :=
    some (flags.negate negated (if flags.unicode then full else ascii))
  let digits : CharSet := .readTable "30-39"
  let blanks : CharSet := .readTable "9-D 20"
  let word : CharSet := .readTable "30-39 41-5A 5F 61-7A"
  match letter with
  | 'd' => choose false Unicode.decimalDigits digits
  | 'D' => choose true Unicode.decimalDigits digits
  | 's' => choose false Unicode.whiteSpace blanks
  | 'S' => choose true Unicode.whiteSpace blanks
  | 'w' => choose false Unicode.word word
  | 'W' => choose true Unicode.word word
  | _ => none

end Flags

def namedClass? (name : String) : Option CharSet :=
  match name with
  | "alnum" => some (.readTable "30-39 41-5A 61-7A")
  | "alpha" => some (.readTable "41-5A 61-7A")
  | "ascii" => some (.readTable "0-7F")
  | "blank" => some (.readTable "9 20")
  | "cntrl" => some (.readTable "0-1F 7F")
  | "digit" => some (.readTable "30-39")
  | "graph" => some (.readTable "21-7E")
  | "lower" => some (.readTable "61-7A")
  | "print" => some (.readTable "20-7E")
  | "punct" => some (.readTable "21-2F 3A-40 5B-60 7B-7E")
  | "space" => some (.readTable "9-D 20")
  | "upper" => some (.readTable "41-5A")
  | "word" => some (.readTable "30-39 41-5A 5F 61-7A")
  | "xdigit" => some (.readTable "30-39 41-46 61-66")
  | _ => none

end Scopemark.Pattern
