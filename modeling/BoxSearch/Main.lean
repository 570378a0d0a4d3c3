import BoxSearch.CommandLine.Run

/-!
# The program

The outer layer of the command line: it looks at the files that the arguments name,
lets `BoxSearch.CommandLine.run` do the work, shows the lines and writes the table.
-/

open BoxSearch CommandLine

/-- What stands under a path; what is there but cannot be read counts as a directory. -/
def lookAt (path : String) : IO (Option FileNode) := do
  try
    return some (.file (← IO.FS.readFile path))
  catch e =>
    match e with
    | .noFileOrDirectory .. => return none
    | _ => return some .directory

/-- The beginnings of a path, shortest first. -/
def beginnings (path : String) : List String :=
  let p := PathParts.ofText path
  let root := if p.absolute then "/" else ""
  (List.range p.parts.length).map fun n => root ++ "/".intercalate (p.parts.take (n + 1))

/-- Adds what stands along a path to a tree. -/
def explore (files : FileTree) (path : String) : IO FileTree := do
  let mut files := files
  for part in beginnings path do
    match ← lookAt part with
    | some (.file text) => files := (files.write part text).toOption.getD files
    | some .directory => files := (files.makeDirectories part).toOption.getD files
    | none => pure ()
  return files

/-- Writes the table of a run, if it made one. -/
def keepTable (o : Options) (files : FileTree) : IO Unit := do
  match o.recordsDir, o.function with
  | some directory, some name =>
    let path := Monitor.tablePath directory (Text.nameKey name)
    match files.read path with
    | .ok text =>
      IO.FS.createDirAll directory
      IO.FS.writeFile path text
    | .error _ => pure ()
  | _, _ => pure ()

/-- A seed that nobody can foresee. -/
def drawSeed : IO UInt64 := do
  let bytes ← IO.getRandomBytes 8
  return bytes.foldl (fun n b => n * 256 + b.toUInt64) 0

/-- Runs the command line. -/
def main (args : List String) : IO UInt32 := do
  let o := (Options.ofArgs args).toOption.getD .none
  let mut files := FileTree.empty
  for path in o.configuration.toList ++ o.recordsDir.toList do
    files ← explore files path
  let seed ← drawSeed
  let timed := Environment.timingEnabled (← IO.getEnv "EVOSOLVE_DE_TIMING")
  let start ← IO.monoNanosNow
  let outcome ← IO.lazyPure fun _ => run args seed timed files
  let taken := (← IO.monoNanosNow) - start
  let filter := Environment.logFilter (← IO.getEnv "EVOSOLVE_LOG")
  for entry in shownLog filter outcome.log do
    IO.eprintln s!"[{entry.level.name}] {entry.text}"
  for line in outcome.lines do
    match line with
    | .out text => IO.println text
    | .err text => IO.eprintln text
    | .elapsed => IO.println ("Optimization finished in " ++ durationText taken)
  keepTable o outcome.files
  return UInt32.ofNat outcome.code
