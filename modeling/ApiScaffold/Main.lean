import ApiScaffold.CommandLine

/-!
The program: a command line over the disk.
-/

namespace ApiScaffold.Disk

def causeOf (reason : IO.Error) : Cause :=
  match reason with
  | .noFileOrDirectory _ _ _ => .system .noEntry
  | .alreadyExists _ _ _ => .system .alreadyExists
  | .inappropriateType _ 20 _ => .system .notDirectory
  | .inappropriateType _ 21 _ => .system .isDirectory
  | other => .text (toString other)

def attempt {α : Type} (action : IO α) : IO (Except Cause α) := do
  try return .ok (← action)
  catch reason => return .error (causeOf reason)

def directoryOf (path : String) : String :=
  match (Text.cutAfterLast '/' path.toList).1 with
  | [] => "."
  | directory => String.ofList directory

/-- A file is written under another name first, so it is never seen unfinished. -/
def write (path contents : String) : IO Unit := do
  let directory := directoryOf path
  IO.FS.createDirAll directory
  let draft := path ++ ".tmp"
  IO.FS.writeFile draft contents
  try IO.FS.rename draft path
  catch reason =>
    IO.FS.removeFile draft
    throw reason

/-- The disk as a storage; nothing can be fetched. -/
def storage : Storage IO where
  read path := attempt (IO.FS.readFile path)
  write path contents := attempt (write path contents)
  fetch _ := return .error .transfer

end ApiScaffold.Disk

def main (arguments : List String) : IO UInt32 := do
  let report ← ApiScaffold.CommandLine.run ApiScaffold.Disk.storage arguments
  IO.print report.output
  IO.eprint report.complaint
  return report.code
