import Embedder.Command.Report
import Embedder.FileSystem.Changes

/-!
The program: carries out the command of its arguments on the files of the host.
-/

namespace Embedder.Host

/-- Puts an item at a path if it can be there. -/
def place (fs : FileSystem) (path : String) (item : FileSystem.Item) : FileSystem :=
  (fs.add path item).toOption.getD fs

/-- Adds what the host has at a path, with everything below a directory. A link below a directory
leads to where it leads on the host. -/
partial def load (fs : FileSystem) (path : String) : IO FileSystem := do
  let target ← IO.FS.realPath path
  if ← target.isDir then
    (← target.readDir).foldlM (fun fs e => do
      let inner := path ++ "/" ++ e.fileName
      if (← e.path.symlinkMetadata).type == .symlink then
        return place fs inner (.link (← IO.FS.realPath e.path).toString)
      else load fs inner) (place fs path .directory)
  else
    return place fs path (.file (← IO.FS.readBinFile target).toList)

/-- Adds what the host has at a path, if there is anything that can be read. -/
def loadIfPresent (fs : FileSystem) (path : String) : IO FileSystem := do
  try load fs path catch _ => return fs

/-- Makes the changes of a command on the host. -/
def store (before after : FileSystem) : IO Unit := do
  for path in before.lostPaths after do
    IO.FS.removeFile path
  for (path, item) in before.newItems after do
    if let .file bytes := item then IO.FS.writeBinFile path ⟨bytes.toArray⟩

end Embedder.Host

open Embedder in
/-- Loads the files that the command works with, carries it out and prints what it prints. -/
def main (arguments : List String) : IO UInt32 := do
  let empty := FileSystem.atWorking (← IO.currentDir).toString
  let paths := (Command.ofArguments? arguments).elim [] Command.paths
  let files ← paths.foldlM Host.loadIfPresent empty
  let report := Command.execute files arguments
  Host.store files report.files
  (← IO.getStdout).write ⟨report.output.toArray⟩
  (← IO.getStderr).write ⟨report.errors.toArray⟩
  return UInt32.ofNat report.code
