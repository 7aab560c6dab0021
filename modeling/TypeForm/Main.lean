import Std.Time.DateTime.Timestamp
import TypeForm.CommandLine.Run
import TypeForm.Time.Moment

/-!
# The program

The real host: files of the working directory, the clock, and the standard streams.
-/

open TypeForm

/-- The number of an error of the system, which some calls give negated. -/
def errorNumber (code : UInt32) : UInt32 :=
  if code < 0x80000000 then code else -code

/-- What an error of the system means for a file. -/
def fileErrorOf (error : IO.Error) : FileError :=
  match error with
  | .noFileOrDirectory _ _ _ | .noSuchThing _ _ _ => .notFound
  | .inappropriateType _ code _ => if errorNumber code = 20 then .notDirectory else .isDirectory
  | .illegalOperation _ _ => .isDirectory
  | .invalidArgument _ code _ =>
    if errorNumber code = 36 then .nameTooLong else .other (toString error)
  | _ => .other (toString error)

/-- Run an action on a file. -/
def attempt (action : IO α) : IO (Except FileError α) := do
  try
    return .ok (← action)
  catch error =>
    return .error (fileErrorOf error)

/-- The content of a file as text. -/
def readText (path : String) : IO (Except FileError String) := do
  match ← attempt (IO.FS.readBinFile path) with
  | .error error => return .error error
  | .ok bytes =>
    return match String.fromUTF8? bytes with
      | some text => .ok text
      | none => .error .notText

/-- The time of day. -/
def currentTime : IO String := do
  let nanos := (← Std.Time.Timestamp.now).toNanosecondsSinceUnixEpoch.toInt
  let moment : Moment := ⟨nanos / 1000000000, (nanos % 1000000000).toNat, 0⟩
  return moment.text

/-- Whether something exists at a path. -/
def pathExists (path : String) : IO Bool := do
  match ← attempt (IO.FS.withFile path .read fun _ => pure ()) with
  | .ok () => return true
  | .error error => return error != .notFound && error != .notDirectory

def realHost : Host IO where
  exists? := pathExists
  read := readText
  write path content := attempt (IO.FS.writeFile path content)
  now := currentTime

/-- Whether a variable of the environment is set to something else than zero. -/
def isSet (name : String) : IO Bool := do
  return match ← IO.getEnv name with
    | some value => value != "0"
    | none => false

/-- Colours are shown on a terminal unless they are turned off, and elsewhere if they are asked
for. -/
def wantsColours : IO Bool := do
  if ← isSet "CLICOLOR_FORCE" then return true
  if (← IO.getEnv "NO_COLOR").isSome then return false
  if (← IO.getEnv "CLICOLOR") == some "0" then return false
  (← IO.getStdout).isTty

def main (arguments : List String) : IO UInt32 := do
  let outcome ← Run.program realHost (← wantsColours) arguments
  (← IO.getStdout).putStr outcome.out
  (← IO.getStderr).putStr outcome.err
  return outcome.exit.toUInt32
