import UnitCache.Completion.Candidate
import UnitCache.Error
import UnitCache.Text.Quoted

namespace UnitCache

inductive Warning where
  | skippedCandidate (kind : CursorKind)
  | skippedChunk (kind : ChunkKind)
  | openMarker (rest : String)
  /-- An optional chunk has no end; `rest` is what stands behind its start. -/
  | openOptional (rest : String)
  | unsavedIgnored (count : Nat) (path : Path)
  | buildFailed (path : Path) (error : Error)
  | refreshFailed (path : Path) (error : Error)
  | queueFull (path : Path)
  | jobPanicked (path : Path)
  deriving DecidableEq, Inhabited, Repr

def Warning.message : Warning → String
  | skippedCandidate kind => "Unimplemented CursorKind: " ++ kind.name
  | skippedChunk kind => "Unimplemented CompletionChunkKind: " ++ kind.name
  | openMarker rest => "Unterminated completion marker in " ++ Text.quoted rest
  | openOptional rest => "Unterminated optional chunk in " ++ Text.quoted rest
  | unsavedIgnored count path =>
    s!"Ignoring {count} unsaved files for {path.text}; unsaved contents are not supported"
  | buildFailed path error => "Failed to compile " ++ path.text ++ ": " ++ error.message
  | refreshFailed path error => "Failed to reparse " ++ path.text ++ ": " ++ error.message
  | queueFull path => "Work queue full, dropping job for " ++ path.text
  | jobPanicked path => "Job for " ++ path.text ++ " panicked"

end UnitCache
