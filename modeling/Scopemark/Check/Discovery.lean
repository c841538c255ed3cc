import Scopemark.Files.Tree

namespace Scopemark.Check

def hasExtension (extensions : List String) (path : FilePath) : Bool :=
  (path.extension?.bind FilePath.text?).any extensions.contains

/-- A name that is no text is taken for an empty one. -/
def nameText (name : FileName) : String := name.text?.getD ""

def isHidden (name : FileName) : Bool := (nameText name).toList.head? == some '.'

def isSkipped (name : FileName) : Bool :=
  nameText name == "target" || nameText name == "node_modules"

mutual

/-- What has a path that is too long to be asked about is taken for a file. -/
def fixturesAt (fs : Files) (extensions : List String) (path : FilePath) (name : FileName) :
    FileTree → List FilePath
  | .file _ => if hasExtension extensions path then [path] else []
  | .dir entries =>
    if fs.isDir path then if isSkipped name then [] else fixturesBelow fs extensions path entries
    else if hasExtension extensions path then [path] else []

def fixturesBelow (fs : Files) (extensions : List String) (dir : FilePath) :
    List (FileName × FileTree) → List FilePath
  | [] => []
  | (name, tree) :: rest =>
    (if isHidden name then [] else fixturesAt fs extensions (dir.join name) name tree) ++
      fixturesBelow fs extensions dir rest

end

def discover (fs : Files) (extensions : List String) (root : FilePath) : List FilePath :=
  match fs.find root with
  | .ok (.dir entries) =>
    (fixturesBelow fs extensions root entries).mergeSort fun a b => !b.lt a
  | _ => []

def discoverAt (fs : Files) (extensions : List String) (path : FilePath) : List FilePath :=
  if fs.isFile path then if hasExtension extensions path then [path] else []
  else discover fs extensions path

end Scopemark.Check
