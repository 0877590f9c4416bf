import TableScan.Columnar.Fault
import TableScan.Format.Basic
import TableScan.IoError
import TableScan.Location.FileUri
import TableScan.Text.Utf8

/-!
# Errors

An error names the layer that reports it and carries what it was raised for: `Error.config` for
anything that keeps a table from being set up, `Error.read` for anything that fails afterwards,
`Error.fs` for a refusal of the file system, `Error.identity` for a principal that could not be
taken on, and `Error.state` for a call out of turn. `Error.message` puts an error into words and
`Error.causes` lists the words of everything below it, outermost first.
-/

namespace TableScan

/-- What is wrong with a table or its parameters. -/
inductive ConfigFault where
  | emptyLocation
  | noSuchLocation (location : String)
  /-- None of the `listed` files takes part. -/
  | noReadableFiles (location : String) (listed : Nat)
  | unknownFormat (name : String)
  | unknownDelimiterEscape (spelling : String)
  | delimiterNotOneCharacter (spelling : String)
  | delimiterEndsLines
  | delimiterNotOneByte (spelling : String)
  | unsupportedScheme (scheme location : String)
  | badFileUri (location : String)
  | notALocalPath (location : String)
  | noColumnListing (format : Format)
  | noReadableSchema (format : Format) (location : String)
  | noEmbeddedSchema
  /-- The operation `op` of the configuration phase failed. -/
  | phase (op location : String)
  /-- A fault in the words of a file system or an identity. -/
  | other (message : String)
  deriving DecidableEq, Repr

def ConfigFault.message : ConfigFault → String
  | emptyLocation => "table location is empty"
  | noSuchLocation location => s!"table location '{location}' does not exist"
  | noReadableFiles location listed =>
    s!"table location '{location}' contains no readable files ({listed} listed, none eligible)"
  | unknownFormat name => s!"unsupported file format '{name}'"
  | unknownDelimiterEscape raw => s!"unrecognized field delimiter escape '{raw}'"
  | delimiterNotOneCharacter raw => s!"field delimiter '{raw}' must be a single character"
  | delimiterEndsLines => "line terminators cannot be field delimiters"
  | delimiterNotOneByte raw => s!"field delimiter '{raw}' is not a single-byte character"
  | unsupportedScheme scheme location =>
    s!"unsupported filesystem scheme '{scheme}' in '{location}'; " ++
      "only local paths and file:// are available"
  | badFileUri location => s!"invalid file URI '{location}'"
  | notALocalPath location => s!"'{location}' does not name a local path"
  | noColumnListing format => s!"column listing is not supported for {format.name} tables"
  | noReadableSchema format location =>
    s!"no {format.name} file under '{location}' has a readable schema"
  | noEmbeddedSchema => "text files have no embedded columnar schema"
  | phase op location => s!"{op} failed for '{location}'"
  | other message => message

inductive StateFault where
  | beforeConfigure (op : String)
  | afterClose (op : String)
  | notPositioned
  | splitOutOfRange (index count : Nat)
  | noCurrentRow (path : String)
  | other (message : String)
  deriving DecidableEq, Repr

def StateFault.message : StateFault → String
  | beforeConfigure op => s!"{op} called before configure"
  | afterClose op => s!"{op} called after close"
  | notPositioned => "readNext called without a positioned record; call reachedEnd first"
  | splitOutOfRange index count => s!"split {index} out of range ({count} splits)"
  | noCurrentRow path => s!"no current row in '{path}'"
  | other message => message

mutual

/-- A failure, told apart by the layer that reports it. -/
inductive Error where
  | config (fault : ConfigFault)
  /-- The table cannot be set up, for a reason of its own. -/
  | configFor (fault : ConfigFault) (cause : Cause)
  | read (op path : String) (cause : Cause)
  | fs (op path : String) (cause : IoError)
  | identity (message : String)
  | state (fault : StateFault)

/-- What an error was raised for. -/
inductive Cause where
  | error (e : Error)
  | io (e : IoError)
  | utf8 (f : Text.Utf8.Fault)
  | columnar (f : Columnar.Fault)
  /-- A decoder of columnar files refused the file; its words are its own and are not kept. -/
  | decoder
  | uri (f : UriHost.Fault)
  /-- The scan had failed before, for the reason given. -/
  | stopped (reason : String)

end

/-- The frame in which a failure to read or to reach a file is reported. -/
def framed (layer op path cause : String) : String :=
  s!"{layer} error during {op} on '{path}': {cause}"

def stoppedMessage (reason : String) : String := s!"scan stopped by an earlier failure: {reason}"

mutual

def Error.message : Error → String
  | .config fault => "configuration error: " ++ fault.message
  | .configFor fault _ => "configuration error: " ++ fault.message
  | .read op path cause => framed "read" op path cause.message
  | .fs op path cause => framed "filesystem" op path cause.message
  | .identity message => "identity error: " ++ message
  | .state fault => "invalid downloader state: " ++ fault.message

def Cause.message : Cause → String
  | .error e => e.message
  | .io e => e.message
  | .utf8 f => f.message
  | .columnar f => f.message
  | .decoder => "<decoder>"
  | .uri f => f.message
  | .stopped reason => stoppedMessage reason

end

mutual

/-- The words of everything an error was raised for, outermost first. -/
def Error.causes : Error → List String
  | .config _ => []
  | .configFor _ cause => cause.chain
  | .read _ _ cause => cause.chain
  | .fs _ _ cause => [cause.message]
  | .identity _ => []
  | .state _ => []

/-- The words of a cause and of everything below it. -/
def Cause.chain : Cause → List String
  | .error e => e.message :: e.causes
  | .io e => [e.message]
  | .utf8 f => [f.message]
  | .columnar f => [f.message]
  | .decoder => ["<decoder>"]
  | .uri f => [f.message]
  | .stopped reason => [stoppedMessage reason]

end

namespace Error

def isConfig : Error → Bool
  | config _ => true
  | configFor _ _ => true
  | _ => false

def isRead : Error → Bool
  | read _ _ _ => true
  | _ => false

def isState : Error → Bool
  | state _ => true
  | _ => false

end Error

end TableScan
