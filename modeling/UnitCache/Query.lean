import UnitCache.Path

namespace UnitCache

/-- A file as an editor sees it. Its contents are empty if the file is saved. -/
structure SourceFile where
  name : Path
  contents : String := ""
  deriving DecidableEq, Inhabited, Repr

def SourceFile.hasUnsavedContents (file : SourceFile) : Bool := !file.contents.isEmpty

structure Cursor where
  file : SourceFile
  line : UInt32
  column : UInt32
  deriving DecidableEq, Inhabited, Repr

structure CompletionQuery where
  cursor : Cursor
  deriving DecidableEq, Inhabited, Repr

def CompletionQuery.inSaved (file : Path) (line column : UInt32) : CompletionQuery :=
  ⟨⟨{ name := file }, line, column⟩⟩

end UnitCache
