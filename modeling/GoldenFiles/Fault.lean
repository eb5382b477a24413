import GoldenFiles.Path

/-!
# Faults

Why a file cannot be reached, read or written, or a report not be written.

## Main definitions

* `Fault` — the reasons
* `Fault.message` — their wording
-/

namespace GoldenFiles

/-- A reason for which a file or a sink refuses an operation. -/
inductive Fault
  | notFound
  | notADirectory
  | isADirectory
  | tooManyLinks
  | nameTooLong
  | zeroInPath
  | notUtf8
  | sinkFull
  /-- A reason that a device gives in words of its own. -/
  | reported (message : Text)
  deriving DecidableEq, Repr

/-- The wording of a fault. -/
def Fault.message : Fault → Text
  | .notFound => "No such file or directory (os error 2)".toList
  | .notADirectory => "Not a directory (os error 20)".toList
  | .isADirectory => "Is a directory (os error 21)".toList
  | .tooManyLinks => "Too many levels of symbolic links (os error 40)".toList
  | .nameTooLong => "File name too long (os error 36)".toList
  | .zeroInPath => "file name contained an unexpected NUL byte".toList
  | .notUtf8 => "stream did not contain valid UTF-8".toList
  | .sinkFull => "sink full".toList
  | .reported message => message

end GoldenFiles
