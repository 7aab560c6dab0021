/-!
# What a run meets outside itself

A host gives files and the time of day, in whatever monad the outside is reached.
-/
namespace TypeForm

/-- Why a file cannot be read or written. -/
inductive FileError where
  | notFound
  | isDirectory
  | notDirectory
  | nameTooLong
  | notText
  | other (reason : String)
deriving DecidableEq, Repr

def FileError.message : FileError → String
  | notFound => "No such file or directory (os error 2)"
  | isDirectory => "Is a directory (os error 21)"
  | notDirectory => "Not a directory (os error 20)"
  | nameTooLong => "File name too long (os error 36)"
  | notText => "stream did not contain valid UTF-8"
  | other reason => reason

/-- Access to the world in a monad. -/
structure Host (m : Type → Type) where
  exists? : String → m Bool
  read : String → m (Except FileError String)
  write : String → String → m (Except FileError Unit)
  /-- The time of day as RFC 3339 text. -/
  now : m String

end TypeForm
