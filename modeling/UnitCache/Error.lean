import UnitCache.Path

namespace UnitCache

inductive ErrorKind where
  | io
  | json
  | parse
  | completion
  | unsupported
  | engineUnavailable
  | configuration
  | other
  deriving DecidableEq, Inhabited, Repr

def ErrorKind.heading : ErrorKind → String
  | .io => "IO error: "
  | .json => "JSON error: "
  | .parse => "Parse error: "
  | .completion => "Completion error: "
  | .unsupported => "Unsupported: "
  | .engineUnavailable => "Engine unavailable: "
  | .configuration => "Configuration error: "
  | .other => ""

inductive FileFailure where
  | notFound
  | notDirectory
  | isDirectory
  | notPermitted
  | notText
  | badName
  deriving DecidableEq, Inhabited, Repr

def FileFailure.message : FileFailure → String
  | .notFound => "No such file or directory (os error 2)"
  | .notDirectory => "Not a directory (os error 20)"
  | .isDirectory => "Is a directory (os error 21)"
  | .notPermitted => "Permission denied (os error 13)"
  | .notText => "stream did not contain valid UTF-8"
  | .badName => "file name contained an unexpected NUL byte"

inductive Error where
  | file (failure : FileFailure)
  | badJson
  | gaveUp (path : Path)
  | sourceMissing (path : Path)
  | fatal (message : String)
  | badPosition (line column : UInt32)
  | pastEnd (line : UInt32)
  | otherFile (unit asked : Path)
  | completionFailed (complaint : String)
  | notValid (cause : Error)
  | unsavedFile
  | compilerNotFound
  | unknownEngine (name : String)
  | emptyQueue
  | noWorkers
  | zeroInterval
  | reported (kind : ErrorKind) (text : String)
  deriving DecidableEq, Inhabited, Repr

namespace Error

def kind : Error → ErrorKind
  | file _ => .io
  | badJson => .json
  | gaveUp _ | sourceMissing _ | fatal _ => .parse
  | badPosition .. | pastEnd _ | otherFile .. | completionFailed _ | notValid _ => .completion
  | unsavedFile => .unsupported
  | compilerNotFound => .engineUnavailable
  | unknownEngine _ | emptyQueue | noWorkers | zeroInterval => .configuration
  | reported kind _ => kind

def detail : Error → String
  | file failure => failure.message
  | badJson => ""
  | gaveUp path => "tree-sitter gave up on " ++ path.text
  | sourceMissing path => "file not found: " ++ path.text
  | fatal message => message
  | badPosition line column => s!"invalid position {line.toNat}:{column.toNat}"
  | pastEnd line => s!"line {line.toNat} is past the end of file"
  | otherFile unit asked => "unit for " ++ unit.text ++ " cannot complete in " ++ asked.text
  | completionFailed complaint => complaint
  | notValid cause => "completion results are not valid: " ++ cause.kind.heading ++ detail cause
  | unsavedFile => "completion of unsaved files is currently not supported"
  | compilerNotFound => "clang not found, please install clang"
  | unknownEngine name => "unknown engine: " ++ name
  | emptyQueue => "cache.queue_len must be at least 1"
  | noWorkers => "cache.workers must be at least 1"
  | zeroInterval => "cache.refresh_interval_ms must be positive"
  | reported _ text => text

def message (error : Error) : String := error.kind.heading ++ error.detail

end Error

end UnitCache
