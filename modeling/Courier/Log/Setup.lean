/-
# Setting up the log — where records go

Records always go to the console.  If a directory is named, by the caller or else by the
configuration, they go to a file in it as well; the directory is made if it is missing.
-/
import Courier.Config

namespace Courier

/-- Why the log cannot be set up. -/
inductive LogSetupError where
  | directory (path : String) (cause : FileError)
  /-- The process writes records somewhere already. -/
  | taken
  deriving DecidableEq, Repr

/-- The wording of the reason. -/
def LogSetupError.message : LogSetupError → String
  | .directory path cause => "failed to create logs directory " ++ path ++ ": " ++ cause.message
  | .taken =>
    "failed to install log subscriber: a global default trace dispatcher has already been set"

/-- The files after the log was set up, and whether records go to a file. -/
structure LogSetup where
  files : Files
  result : Except LogSetupError Bool

/-- The directory of the log file, if there is one. -/
def LoggingConfig.chosenDirectory (c : LoggingConfig) (override : Option String) : Option String :=
  override.or c.directory

/-- Sets up the log; `taken` says that the process writes records somewhere already. -/
def LoggingConfig.setUp (c : LoggingConfig) (override : Option String) (taken : Bool)
    (files : Files) : LogSetup :=
  match c.chosenDirectory override with
  | none => ⟨files, .ok false⟩
  | some path =>
    match files.makeDirectories path with
    | .error e => ⟨files, .error (.directory path e)⟩
    | .ok files => ⟨files, if taken then .error .taken else .ok true⟩

/-! ## Standard places -/

/-- The directory of the configuration in a home directory. -/
def Config.directoryIn (home : String) : String := joinPath home ".herald"

/-- The configuration file in a home directory. -/
def Config.fileIn (home : String) : String := joinPath (Config.directoryIn home) "herald.toml"

end Courier
