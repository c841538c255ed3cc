import Scopemark.Files.Path

namespace Scopemark

inductive FileTree
  | file (content : ByteArray)
  | dir (entries : List (FileName × FileTree))
deriving Inhabited

inductive FileFault
  | notFound
  | notDirectory
  | isDirectory
  | nameTooLong
  | nameHasNul
  | notText
deriving DecidableEq, Repr

def FileFault.message : FileFault → String
  | .notFound => "No such file or directory (os error 2)"
  | .notDirectory => "Not a directory (os error 20)"
  | .isDirectory => "Is a directory (os error 21)"
  | .nameTooLong => "File name too long (os error 36)"
  | .nameHasNul => "file name contained an unexpected NUL byte"
  | .notText => "stream did not contain valid UTF-8"

namespace FileTree

def isDir : FileTree → Bool
  | file _ => false
  | dir _ => true

/-- Puts a file or directory under the given names, and directories on the way. Something that is
there already gives way unless both are directories. -/
def insert (old : FileTree) (names : List FileName) (item : FileTree) : FileTree :=
  match names with
  | [] =>
    match item, old with
    | dir [], dir entries => dir entries
    | item, _ => item
  | name :: rest =>
    let entries := match old with
      | dir entries => entries
      | file _ => []
    match entries.lookup name with
    | none => dir (entries ++ [(name, insert (dir []) rest item)])
    | some _ => dir (entries.map fun (n, t) => if n == name then (n, insert t rest item) else (n, t))

end FileTree

/-- A tree with all directories above it, the nearest first, and the root last. -/
structure Place where
  tree : FileTree
  above : List FileTree

structure Files where
  root : FileTree
  /-- The names of directories from the root to the working directory. -/
  workingDir : List String

namespace Files

def nameLimit : Nat := 255

def pathLimit : Nat := 4096

def step (p : Place) (piece : List UInt8) : Except FileFault Place :=
  match p.tree with
  | .file _ => .error .notDirectory
  | .dir entries =>
    if Path.isIdle piece then .ok p
    else if piece == [Path.dot, Path.dot] then
      match p.above with
      | [] => .ok p
      | up :: above => .ok ⟨up, above⟩
    else if nameLimit < piece.length then .error .nameTooLong
    else
      match entries.lookup ⟨piece⟩ with
      | none => .error .notFound
      | some tree => .ok ⟨tree, p.tree :: p.above⟩

def walk (start : Place) (pieces : List (List UInt8)) : Except FileFault Place :=
  pieces.foldlM step start

def here (fs : Files) : Except FileFault Place :=
  walk ⟨fs.root, []⟩ (fs.workingDir.map fun name => (FilePath.ofString name).bytes)

def find (fs : Files) (path : FilePath) : Except FileFault FileTree := do
  if path.bytes.contains 0 then throw .nameHasNul
  else if pathLimit ≤ path.size then throw .nameTooLong
  else if path.bytes.isEmpty then throw .notFound
  else
    let start ← if Path.isAbsolute path.bytes then pure ⟨fs.root, []⟩ else fs.here
    return (← walk start (Text.cut Path.slash path.bytes)).tree

def isThere (fs : Files) (path : FilePath) : Bool := (fs.find path).isOk

def isDir (fs : Files) (path : FilePath) : Bool :=
  match fs.find path with
  | .ok tree => tree.isDir
  | .error _ => false

def isFile (fs : Files) (path : FilePath) : Bool :=
  match fs.find path with
  | .ok tree => !tree.isDir
  | .error _ => false

def readText (fs : Files) (path : FilePath) : Except FileFault String := do
  match ← fs.find path with
  | .dir _ => throw .isDirectory
  | .file content =>
    match String.fromUTF8? content with
    | some text => return text
    | none => throw .notText

def workingPath (fs : Files) : String := "/" ++ String.intercalate "/" fs.workingDir

end Files

end Scopemark
