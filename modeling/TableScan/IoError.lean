/-!
# Failures of input and output

What a file system or a file handle reports when it cannot do what it is asked.
-/

namespace TableScan

/-- What kind of failure it is, for those who do not go by its words. -/
inductive FailureKind where
  | notFound
  | notADirectory
  | isADirectory
  | invalidName
  | linkLoop
  | invalidInput
  | invalidData
  | unexpectedEnd
  | other
  deriving DecidableEq, Repr

inductive OsError where
  | noEntry
  | notDirectory
  | isDirectory
  | invalidArgument
  | nameTooLong
  | tooManyLinks
  deriving DecidableEq, Repr

namespace OsError

/-- The host's number for the refusal. -/
def code : OsError → Nat
  | noEntry => 2
  | notDirectory => 20
  | isDirectory => 21
  | invalidArgument => 22
  | nameTooLong => 36
  | tooManyLinks => 40

/-- The host's words for the refusal. -/
def words : OsError → String
  | noEntry => "No such file or directory"
  | notDirectory => "Not a directory"
  | isDirectory => "Is a directory"
  | invalidArgument => "Invalid argument"
  | nameTooLong => "File name too long"
  | tooManyLinks => "Too many levels of symbolic links"

def message (e : OsError) : String := s!"{e.words} (os error {e.code})"

def kind : OsError → FailureKind
  | noEntry => .notFound
  | notDirectory => .notADirectory
  | isDirectory => .isADirectory
  | invalidArgument => .invalidInput
  | nameTooLong => .invalidName
  | tooManyLinks => .linkLoop

end OsError

inductive IoError where
  /-- The host refused. -/
  | os (e : OsError)
  /-- A name holds the byte zero, which no host name does. -/
  | zeroInName
  /-- A position before the first byte, or beyond the last possible one, was asked for. -/
  | seekBeforeStart
  /-- The file ended inside a chunk of `wanted` bytes at `offset`, after `found` of them. -/
  | unexpectedEnd (wanted offset found : Nat)
  /-- The bytes are not the text they should be. -/
  | notUtf8
  /-- Any other failure, in the words of the file. -/
  | other (message : String)
  deriving DecidableEq, Repr

namespace IoError

def message : IoError → String
  | os e => e.message
  | zeroInName => "file name contained an unexpected NUL byte"
  | seekBeforeStart => "seek before start of file"
  | unexpectedEnd wanted offset found =>
    s!"wanted {wanted} bytes at offset {offset}, file ended after {found}"
  | notUtf8 => "stream did not contain valid UTF-8"
  | other message => message

def kind : IoError → FailureKind
  | os e => e.kind
  | zeroInName => .invalidInput
  | seekBeforeStart => .invalidInput
  | unexpectedEnd .. => .unexpectedEnd
  | notUtf8 => .invalidData
  | other _ => .other

end IoError

end TableScan
