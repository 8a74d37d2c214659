/-!
# Errors of files

What the file system, or the decoding of a file, refuses.
-/

namespace BrokerControl

/-- What went wrong with a file. -/
inductive FileError where
  | notFound
  | exists
  | notDirectory
  | isDirectory
  | nameTooLong
  | permissionDenied
  | notUtf8
  /-- Any other refusal, in the words of the system. -/
  | other (sentence : String)
  deriving DecidableEq, Repr

namespace FileError

/-- The sentence for the user. -/
def message : FileError → String
  | notFound => "No such file or directory (os error 2)"
  | permissionDenied => "Permission denied (os error 13)"
  | «exists» => "File exists (os error 17)"
  | notDirectory => "Not a directory (os error 20)"
  | isDirectory => "Is a directory (os error 21)"
  | nameTooLong => "File name too long (os error 36)"
  | notUtf8 => "stream did not contain valid UTF-8"
  | other sentence => sentence

end FileError

end BrokerControl
