/-
# Faults of file access

The ways in which a file cannot be found, read or changed, with the words for each.  Whether access
is permitted is no question here.
-/

namespace RecordRegistry

/-- Why a file cannot be accessed. -/
inductive FileFault
  /-- Nothing is there, or a directory on the way is not. -/
  | missing
  /-- Something is there already. -/
  | present
  /-- A directory was wanted. -/
  | notDirectory
  /-- A directory was not wanted. -/
  | isDirectory
  /-- A directory is named by where it is, and cannot be replaced. -/
  | busy
  | nameTooLong
  | tooManyLinks
  /-- A path with a zero byte leads nowhere. -/
  | zeroInPath
  /-- The content was wanted as text. -/
  | notText
  deriving DecidableEq, Repr

namespace FileFault

/-- The words for a fault. -/
def message : FileFault → String
  | missing => "No such file or directory (os error 2)"
  | present => "File exists (os error 17)"
  | notDirectory => "Not a directory (os error 20)"
  | isDirectory => "Is a directory (os error 21)"
  | busy => "Device or resource busy (os error 16)"
  | nameTooLong => "File name too long (os error 36)"
  | tooManyLinks => "Too many levels of symbolic links (os error 40)"
  | zeroInPath => "file name contained an unexpected NUL byte"
  | notText => "stream did not contain valid UTF-8"

end FileFault

end RecordRegistry
