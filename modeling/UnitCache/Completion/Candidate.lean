namespace UnitCache

inductive CursorKind where
  | structDecl
  | typedefDecl
  | functionDecl
  | varDecl
  | enumDecl
  | macroDefinition
  | notImplemented
  deriving DecidableEq, Inhabited, Repr

def CursorKind.name : CursorKind → String
  | .structDecl => "StructDecl"
  | .typedefDecl => "TypedefDecl"
  | .functionDecl => "FunctionDecl"
  | .varDecl => "VarDecl"
  | .enumDecl => "EnumDecl"
  | .macroDefinition => "MacroDefinition"
  | .notImplemented => "NotImplemented"

def CursorKind.all : List CursorKind :=
  [.structDecl, .typedefDecl, .functionDecl, .varDecl, .enumDecl, .macroDefinition, .notImplemented]

inductive ChunkKind where
  | typedText
  | text
  | placeholder
  | informative
  | resultType
  | optional
  | leftParen
  | rightParen
  | comma
  deriving DecidableEq, Inhabited, Repr

def ChunkKind.name : ChunkKind → String
  | .typedText => "TypedText"
  | .text => "Text"
  | .placeholder => "Placeholder"
  | .informative => "Informative"
  | .resultType => "ResultType"
  | .optional => "Optional"
  | .leftParen => "LeftParen"
  | .rightParen => "RightParen"
  | .comma => "Comma"

def ChunkKind.all : List ChunkKind :=
  [.typedText, .text, .placeholder, .informative, .resultType, .optional, .leftParen, .rightParen, .comma]

structure Chunk where
  kind : ChunkKind
  text : String
  deriving DecidableEq, Inhabited, Repr

structure Candidate where
  cursorKind : CursorKind
  chunks : List Chunk
  deriving DecidableEq, Inhabited, Repr

end UnitCache
