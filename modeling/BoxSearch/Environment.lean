import BoxSearch.Files
import BoxSearch.Text.Blank

/-!
# Settings from the environment

Three variables of the environment matter to a run: where records are written,
whether generations are timed, and how much is logged.  Each function takes the raw
value of its variable, which is missing when the variable is not set.
-/

namespace BoxSearch

namespace Environment

/-- The directory of the records when none is set. -/
def defaultRecordsDir : String := "./data_generated/records"

/-- The log filter when none is set. -/
def defaultLogFilter : String := "info"

/-- Whether a value is set to anything but blanks. -/
def isSet (value : Option String) : Bool := value.any fun v => !(Text.trim v).isEmpty

/-- The directory of the records, which is made if it is not there. -/
def recordsDir (value : Option String) (files : FileTree) :
    Except EnvironmentError String × FileTree :=
  let path := if isSet value then Text.trim (value.getD "") else defaultRecordsDir
  if files.isFile path then (.error (.recordsDirIsFile path), files)
  else if files.exists? path then (.ok path, files)
  else
    match files.makeDirectories path with
    | .ok files => (.ok path, files)
    | .error e => (.error (.recordsDirCreationFailed path e), files)

/-- Generations are timed unless the value is missing, empty or zero. -/
def timingEnabled (value : Option String) : Bool := value.any fun v => v ≠ "" && v ≠ "0"

/-- The log filter. -/
def logFilter (value : Option String) : String :=
  if isSet value then value.getD "" else defaultLogFilter

end Environment

end BoxSearch
