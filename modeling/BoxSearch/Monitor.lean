import BoxSearch.Cancellation
import BoxSearch.Environment
import BoxSearch.Json.Writer

/-!
# Monitors

A monitor watches the records of a run, those of its evaluations or those of its
generations.  It never changes them and never fails while it watches.

* `memory` keeps every record;
* `verbose` logs every so-many-th record;
* `table` keeps every record until they are written to a file of comma-separated
  values, with a header and one row for each record;
* `stopAfter` asks the run to stop once enough evaluations are spent.
-/

namespace BoxSearch

/-- What watches the records of a run. -/
inductive Monitor where
  /-- takes no notice -/
  | silent
  /-- keeps every record -/
  | memory (records : Array (Record Float))
  /-- logs every `interval`-th record; `seen` of them have gone by -/
  | verbose (interval seen : Nat)
  /-- keeps every record for a file -/
  | table (directory name : String) (records : Array (Record Float))
  /-- asks the run to stop from a number of evaluations on -/
  | stopAfter (evaluations : Nat)

namespace Monitor

/-- A monitor that logs; an interval of 0 counts as 1. -/
def everyNth (interval : Nat) : Monitor := .verbose (max interval 1) 0

/-- The monitor after a record, with what it logs. -/
def observe (m : Monitor) (r : Record Float) : Monitor × List LogEntry :=
  match m with
  | .silent => (.silent, [])
  | .memory records => (.memory (records.push r), [])
  | .verbose interval seen =>
    (.verbose interval (seen + 1), if seen % interval = 0 then [.recordShown seen r] else [])
  | .table directory name records => (.table directory name (records.push r), [])
  | .stopAfter limit => (.stopAfter limit, [])

/-- Whether a record makes the monitor ask the run to stop. -/
def asksToStop (m : Monitor) (r : Record Float) : Bool :=
  match m with
  | .stopAfter limit => limit ≤ r.evaluations
  | _ => false

/-- The records kept by a monitor. -/
def records : Monitor → List (Record Float)
  | .memory records => records.toList
  | .table _ _ records => records.toList
  | _ => []

end Monitor

namespace Record

/-- A record as a document. -/
def toJson (r : Record Float) : Json :=
  .record [("evaluation_count", .nat r.evaluations), ("parameters", .list .float r.point),
    ("fitness", .float r.energy)]

/-! ## Tables -/

/-- The heads of the columns of a table for points of a dimension. -/
def columnHeads (dim : Nat) : List String :=
  "evaluation_count" :: (List.range dim).map (s!"x{·}") ++ ["fitness"]

/-- The fields of a record. -/
def fields (r : Record Float) : List String :=
  toString r.evaluations :: r.point.map (fixed 16) ++ [fixed 16 r.energy]

/-- The rows of a table: the heads and the records, all of one length. -/
def rows (records : List (Record Float)) : Except TableError (List (List String)) :=
  let dim := (records.head?.map (·.point.length)).getD 0
  match records.find? (·.point.length ≠ dim) with
  | some r => .error (.unequalLengths (dim + 2) (r.point.length + 2))
  | none => .ok (columnHeads dim :: records.map fields)

/-- The text of a table. -/
def tableText (rows : List (List String)) : String :=
  String.join (rows.map fun row => ",".intercalate row ++ "\n")

end Record

namespace Monitor

/-- The file of a table. -/
def tablePath (directory name : String) : String := joinPath directory (name ++ ".csv")

/-- A monitor for a table in the directory of the records. -/
def tableFromEnvironment (value : Option String) (name : String) (files : FileTree) :
    Except EnvironmentError Monitor × FileTree :=
  let (directory, files) := Environment.recordsDir value files
  (directory.map (.table · name #[]), files)

/-- Writes records to the file of a table; returns its path. -/
def writeTable (directory name : String) (records : List (Record Float)) (files : FileTree) :
    Except SolverError (String × LogEntry) × FileTree :=
  match files.makeDirectories directory with
  | .error e => (.error (.file e), files)
  | .ok files =>
    let path := tablePath directory name
    match files.write path "" with
    | .error e => (.error (.table (.file e)), files)
    | .ok files =>
      match Record.rows records with
      | .error e => (.error (.table e), files)
      | .ok rows =>
        match files.write path (Record.tableText rows) with
        | .error e => (.error (.table (.file e)), files)
        | .ok files => (.ok (path, .recordsSaved records.length path), files)

end Monitor

end BoxSearch
