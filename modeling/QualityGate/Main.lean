import QualityGate.Command.Execution

/-!
# The command line

The command is called in a directory.  Everything below the directory becomes a host, the call is
made on it, and what the call has changed is then changed in the directory, too.
-/

namespace QualityGate

/-- An instant of the system. -/
def Time.Instant.ofSystem (time : IO.FS.SystemTime) : Time.Instant := ⟨time.sec, time.nsec.toNat⟩

/-- The nodes that an entry of a directory stands for. -/
partial def readNodes (location : Location) (entry : IO.FS.DirEntry) :
    IO (List (Location × Node)) := do
  let here := location ++ [entry.fileName]
  match (← entry.path.metadata).type with
  | .dir =>
    let below ← (← entry.path.readDir).toList.mapM (readNodes here)
    return (here, .directory) :: below.flatten
  | .file =>
    let content ← IO.FS.readBinFile entry.path
    return [(here, .file content.toList (.ofSystem (← entry.path.metadata).modified))]
  | _ => return []

/-- Where a location is in the system. -/
def systemPath (location : Location) : String := "/" ++ "/".intercalate location

/-- The instant at which a file is made. -/
def readClock : IO Time.Instant := do
  let (_, path) ← IO.FS.createTempFile
  let time := (← path.metadata).modified
  IO.FS.removeFile path
  return .ofSystem time

/-- Make a node in the system. -/
def writeNode (location : Location) : Node → IO Unit
  | .directory => IO.FS.createDirAll (systemPath location)
  | .file content _ => IO.FS.writeBinFile (systemPath location) (ByteArray.mk content.toArray)
  | .link _ => return

/-- Change the system from one disk to another. -/
def writeChanges (before after : Disk) : IO Unit := do
  for (location, node) in before.nodes do
    if (after.get? location).isNone && node != .directory then
      IO.FS.removeFile (systemPath location)
  let changed := after.nodes.filter fun (location, node) => before.get? location != some node
  for (location, node) in changed.mergeSort fun a b => a.1.length ≤ b.1.length do
    writeNode location node

end QualityGate

open QualityGate in
/-- Call the command in the current directory. -/
def main (arguments : List String) : IO UInt32 := do
  let directory ← IO.currentDir
  let top := pathNames directory.toString
  let below ← (← directory.readDir).toList.mapM (readNodes top)
  let above := (List.range top.length).map fun depth => (top.take (depth + 1), Node.directory)
  let host : Host := { disk := ⟨above ++ below.flatten⟩, now := ← readClock }
  let (outcome, after) := (Command.call (systemPath top) arguments).run host
  writeChanges host.disk after.disk
  IO.print outcome.output
  if let some message := outcome.error then IO.eprintln s!"Error: {message}"
  return outcome.code.toUInt32
