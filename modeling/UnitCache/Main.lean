import UnitCache.CommandLine.Run

namespace UnitCache.CommandLine

def entryOf (path : Path) : IO.FS.DirEntry := { root := ".", fileName := path.text }

def fetch (disk : Disk) (path : Path) : IO Disk := do
  try
    match (← (entryOf path).path.metadata).type with
    | .dir => return disk.put path .directory
    | .file =>
      let bytes ← IO.FS.readBinFile (entryOf path).path
      return disk.put path (.file (.bytes bytes.toList))
    | _ => return disk
  catch _ => return disk

/-- Puts all that lies under a path onto a disk, at most so many directories deep. -/
def fetchAll : Nat → Disk → Path → IO Disk
  | 0, disk, _ => return disk
  | depth + 1, disk, path => do
    let mut disk ← fetch disk path
    try
      for entry in ← (entryOf path).path.readDir do
        disk ← fetchAll depth disk (path.join entry.fileName)
    catch _ => pure ()
    return disk

def Invocation.fetch (invocation : Invocation) : IO Disk := do
  let disk ←
    match invocation.configuration with
    | some path => CommandLine.fetch {} path
    | none => pure {}
  match invocation.command with
  | .parse file _ | .complete file .. => CommandLine.fetch disk file
  | .warm directory .. => fetchAll 64 disk directory

def diskFor (arguments : List String) : IO Disk :=
  match read arguments with
  | .ok invocation => invocation.fetch
  | .error _ => return {}

end UnitCache.CommandLine

def main (arguments : List String) : IO UInt32 := do
  let start ← IO.monoNanosNow
  let disk ← UnitCache.CommandLine.diskFor arguments
  let result := UnitCache.CommandLine.run arguments { disk }
  for warning in result.warnings do
    IO.eprintln ("WARN " ++ warning.message)
  IO.print (result.ending.text (some (UnitCache.CommandLine.timeText ((← IO.monoNanosNow) - start))))
  IO.eprint result.ending.complaint
  return UInt32.ofNat result.ending.code
