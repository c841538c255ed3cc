import Scopemark.Command.Basic

namespace Scopemark.Main

/-- Reads a file, or a directory with all that a check may find in it. What cannot be read is left
out. -/
partial def readTree (entry : IO.FS.DirEntry) : IO FileTree := do
  if ← entry.path.isDir then
    let mut entries : Array (FileName × FileTree) := #[]
    for e in ← entry.path.readDir do
      if !Check.isHidden e.fileName && !Check.isSkipped e.fileName then
        if let .ok tree ← (readTree e).toBaseIO then
          entries := entries.push (FilePath.ofString e.fileName, tree)
    return .dir entries.toList
  else
    return .file (← IO.FS.readBinFile entry.path)

def namesTo (workingDir : List String) (path : String) : List String :=
  (Text.cut '/' path.toList).foldl
    (fun names piece =>
      if Path.isIdle piece then names
      else if piece == ['.', '.'] then names.dropLast
      else names ++ [.ofList piece])
    (if Path.isAbsolute path.toList then [] else workingDir)

def addNames (fs : Files) (names : List String) : IO Files := do
  let here ← IO.currentDir
  let mut root := fs.root
  for count in List.range' 1 names.length do
    let way := names.take count
    let entry : IO.FS.DirEntry := ⟨here, "/" ++ String.intercalate "/" way⟩
    if ← entry.path.pathExists then
      let isLast := count == names.length
      if isLast || !(← entry.path.isDir) then
        if let .ok tree ← (readTree entry).toBaseIO then
          root := root.insert (way.map .ofString) tree
      else
        root := root.insert (way.map .ofString) (.dir [])
  return { fs with root }

def addPaths (command : Command) (fs : Files) : IO Files := do
  let mut fs := fs
  for path in command.paths fs do
    fs ← addNames fs (namesTo fs.workingDir path)
  return fs

/-- The files that a command reads. Options can name a file, so they are read first. -/
def filesFor (command : Command) : IO Files := do
  let here := (← IO.currentDir).toString
  let workingDir := namesTo [] here
  let root := (FileTree.dir []).insert (workingDir.map .ofString) (.dir [])
  addPaths command (← addPaths command ⟨root, workingDir⟩)

def run (args : List String) : IO UInt32 := do
  let command := Command.ofArgs args
  let fs ← filesFor command
  let start ← IO.monoNanosNow
  let outcome ← IO.lazyPure fun _ => command.run fs
  let stop ← IO.monoNanosNow
  for line in outcome.complaints do
    IO.eprintln line
  IO.print (outcome.printout.render (stop - start))
  return outcome.code.toUInt32

end Scopemark.Main

def main (args : List String) : IO UInt32 := Scopemark.Main.run args
