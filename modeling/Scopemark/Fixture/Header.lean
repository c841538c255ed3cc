import Scopemark.Fixture.Basic

namespace Scopemark.Fixture

def headerMark : List Char := "SYNTAX TEST".toList

def defaultToken : List Char := "//".toList

def cutAround (mark : List Char) : List Char → Option (List Char × List Char)
  | [] => if mark.isEmpty then some ([], []) else none
  | c :: rest =>
    if mark.isPrefixOf (c :: rest) then some ([], (c :: rest).drop mark.length)
    else (cutAround mark rest).map fun (before, behind) => (c :: before, behind)

def quoted? (cs : List Char) : Option (List Char × List Char) :=
  match Text.trimStart cs with
  | '\x22' :: rest => cutAround ['\x22'] rest
  | _ => none

def readHeader? (line : List Char) : Option FixtureHeader := do
  let (before, rest) ← cutAround headerMark (Text.trim line)
  let token := Text.trimEnd before
  if token.isEmpty then none
  else
    let (scopeName, rest) ← quoted? rest
    let (suite, _) ← quoted? rest
    return ⟨.ofList token, .ofList scopeName, .ofList suite⟩

def header? (lines : List (List Char)) : Option FixtureHeader :=
  (lines.find? fun l => !Text.allBlank l).bind readHeader?

def tokenOf (header : Option FixtureHeader) : List Char :=
  match header with
  | some h => h.commentToken.toList
  | none => defaultToken

end Scopemark.Fixture
