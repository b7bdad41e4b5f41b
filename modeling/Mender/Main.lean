import Mender.Command.Program
import Mender.Command.Sidecar
import Mender.Machine.Host

namespace Mender.Main

open Files

partial def takeIn (p : Place) (entries : Array IO.FS.DirEntry) (files : Disk) : IO Disk :=
  entries.foldlM (fun files e => do
    let q := p ++ [e.fileName]
    if ← e.path.isDir then takeIn q (← e.path.readDir) (files.put q .directory)
    else return files.put q (.file (← IO.FS.readBinFile e.path))) files

def putBack (before after : Disk) : IO Unit := do
  let old := before.filesBelow before.here
  let new := after.filesBelow before.here
  for (name, _) in old do
    if (new.lookup name).isNone then IO.FS.removeFile name
  for (name, content) in new do
    if old.lookup name != some content then
      let parent := "/".intercalate (parts name).dropLast
      if parent ≠ "" then IO.FS.createDirAll parent
      IO.FS.writeBinFile name content

end Mender.Main

def main (arguments : List String) : IO UInt32 := do
  let directory ← IO.currentDir
  let here := Mender.Files.parts directory.toString
  let bare : Mender.Files.Disk :=
    ⟨[(Mender.Files.device, .file .empty), (["dev"], .directory)], here⟩
  let files ← Mender.Main.takeIn here (← directory.readDir) (bare.makeAll here)
  let host := Mender.Machine.host (Mender.Command.sidecarGrammar files)
  let color := (← IO.getEnv "NO_COLOR").isNone
  let result := Mender.Command.run host color arguments files
  Mender.Main.putBack files result.files
  IO.print result.stdout
  IO.eprint result.stderr
  return UInt32.ofNat result.exit
