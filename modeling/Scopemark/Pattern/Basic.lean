import Scopemark.Pattern.Reader
import Scopemark.Pattern.Search

namespace Scopemark

structure Pattern where
  source : String
  program : Pattern.Program

namespace Pattern

def read? (source : String) : Except Fault Pattern :=
  (readPattern source.toList).map fun (e, groups) => ⟨source, compile e groups⟩

def find? (p : Pattern) (line : Array Char) (pos : Nat) : Option Match :=
  p.program.find? line pos

end Pattern

end Scopemark
