import Scopemark.Unicode.Case

namespace Scopemark.Pattern

inductive WordLook
  | edge
  | notEdge
  | start
  | stop
  | startHalf
  | stopHalf
deriving DecidableEq, Repr

/-- A condition on a place between two characters. Words are those of Unicode or those of ASCII. -/
inductive Look
  | textStart
  | textStop
  | lineStart
  | lineStop
  | crlfStart
  | crlfStop
  | word (look : WordLook) (unicode : Bool)
deriving DecidableEq, Repr

def isWordChar (unicode : Bool) (c : Char) : Bool :=
  if c.toNat < 128 then c.isAlphanum || c == '_' else unicode && Unicode.word.contains c

def WordLook.holds (before after : Bool) : WordLook → Bool
  | .edge => before != after
  | .notEdge => before == after
  | .start => !before && after
  | .stop => before && !after
  | .startHalf => !before
  | .stopHalf => !after

def charBefore (text : Array Char) (pos : Nat) : Option Char :=
  if pos = 0 then none else text[pos - 1]?

def charAfter (text : Array Char) (pos : Nat) : Option Char := text[pos]?

def Look.holds (line : Array Char) (pos : Nat) : Look → Bool
  | .textStart => pos == 0
  | .textStop => pos == line.size
  | .lineStart => pos == 0 || charBefore line pos == some '\n'
  | .lineStop => pos == line.size || charAfter line pos == some '\n'
  | .crlfStart =>
    pos == 0 || charBefore line pos == some '\n' ||
      (charBefore line pos == some '\r' && charAfter line pos != some '\n')
  | .crlfStop =>
    pos == line.size || charAfter line pos == some '\r' ||
      (charAfter line pos == some '\n' && charBefore line pos != some '\r')
  | .word look unicode =>
    look.holds ((charBefore line pos).any (isWordChar unicode))
      ((charAfter line pos).any (isWordChar unicode))

end Scopemark.Pattern
