import Scopemark.Text.Lines
import Scopemark.Text.Lossy

namespace Scopemark

namespace Path

class Letter (α : Type) where
  slash : α
  dot : α

export Letter (slash dot)

instance : Letter Char := ⟨'/', '.'⟩

instance : Letter UInt8 := ⟨0x2F, 0x2E⟩

inductive Part (α : Type)
  | root
  /-- The dot of a path that starts with it. -/
  | here
  | up
  | name (s : List α)
deriving DecidableEq, Repr

section Letters

variable {α : Type} [DecidableEq α] [Letter α]

def isAbsolute (path : List α) : Bool := path.head? == some slash

/-- The piece names nothing: two slashes or a dot between slashes. -/
def isIdle (piece : List α) : Bool := piece.isEmpty || piece == [dot]

def cutStart (path : List α) : List (List α) × List (List α) :=
  let pieces := Text.cut slash path
  if isAbsolute path || pieces.head? == some [dot] then (pieces.take 1, pieces.drop 1)
  else ([], pieces)

def Part.ofPiece (piece : List α) : Part α := if piece == [dot, dot] then .up else .name piece

/-- Repeated slashes, and dots that lead nowhere, are no parts. -/
def parts (path : List α) : List (Part α) :=
  let (start, pieces) := cutStart path
  (start.map fun p => if p.isEmpty then .root else .here) ++
    (pieces.filter fun p => !isIdle p).map Part.ofPiece

def fileName? (path : List α) : Option (List α) :=
  match (parts path).getLast? with
  | some (.name s) => some s
  | _ => none

def nameExtension? (name : List α) : Option (List α) :=
  let behind := name.reverse.takeWhile (· != dot)
  let before := (name.reverse.drop behind.length).drop 1
  if before.isEmpty then none else some behind.reverse

def extension? (path : List α) : Option (List α) := (fileName? path).bind nameExtension?

def dropIdleEnd (pieces : List (List α)) : List (List α) := (pieces.reverse.dropWhile isIdle).reverse

def above? (path : List α) : Option (List α) :=
  let (start, pieces) := cutStart path
  let pieces := dropIdleEnd pieces
  if pieces.isEmpty then if start == [[dot]] then some [] else none
  else
    let rest := dropIdleEnd pieces.dropLast
    if rest.isEmpty && isAbsolute path then some [slash]
    else some (Text.joinWith slash (start ++ rest))

def append (base path : List α) : List α :=
  if isAbsolute path then path
  else if base.isEmpty || base.getLast? == some slash then base ++ path
  else base ++ slash :: path

end Letters

def parent? (path : String) : Option String := (above? path.toList).map .ofList

def join (base path : String) : String := .ofList (append base.toList path.toList)

def Part.rank : Part UInt8 → Nat
  | .root => 0
  | .here => 1
  | .up => 2
  | .name _ => 3

def Part.lt : Part UInt8 → Part UInt8 → Bool
  | .name s, .name t => s < t
  | p, q => p.rank < q.rank

def ltParts : List (Part UInt8) → List (Part UInt8) → Bool
  | _, [] => false
  | [], _ :: _ => true
  | p :: ps, q :: qs => p.lt q || (p == q && ltParts ps qs)

end Path

/-- A path, or a name in one. Its bytes need not be those of a text. -/
structure FilePath where
  bytes : List UInt8
deriving DecidableEq, Repr

abbrev FileName := FilePath

namespace FilePath

def ofString (s : String) : FilePath := ⟨s.toUTF8.data.toList⟩

instance : Coe String FilePath := ⟨ofString⟩

def text? (p : FilePath) : Option String := String.fromUTF8? ⟨p.bytes.toArray⟩

def display (p : FilePath) : String := .ofList (Text.lossy p.bytes)

def size (p : FilePath) : Nat := p.bytes.length

def join (dir : FilePath) (name : FileName) : FilePath := ⟨Path.append dir.bytes name.bytes⟩

def fileName? (p : FilePath) : Option FileName := (Path.fileName? p.bytes).map .mk

def extension? (p : FilePath) : Option FileName := (Path.extension? p.bytes).map .mk

def lt (p q : FilePath) : Bool := Path.ltParts (Path.parts p.bytes) (Path.parts q.bytes)

end FilePath

end Scopemark
