import Scopemark.Text.CharSet

namespace Scopemark.Unicode

def significant (cs : List Char) : List Char :=
  (cs.filter fun c => c != ' ' && c != '_' && c != '-' && c.toNat < 128).map Char.toLower

/-- A name as it is looked up. A name that is `isc` stays whole, for it would be that of another
property without its first two letters. -/
def looseName (cs : List Char) : List Char :=
  match cs with
  | i :: s :: rest =>
    if i.toLower == 'i' && s.toLower == 's' then
      if significant rest == ['c'] then ['i', 's', 'c'] else significant rest
    else significant cs
  | _ => significant cs

def hasName (names : List String) (loose : List Char) : Bool :=
  names.any fun n => significant n.toList == loose

end Scopemark.Unicode
