import UnitCache.Clang.CompletionString
import UnitCache.Text.Ends
import UnitCache.Text.Lines

namespace UnitCache.Clang

structure CompletionLine where
  name : List Char
  string : Option (List Char)
  deriving DecidableEq, Repr

def CompletionLine.read? (line : List Char) : Option CompletionLine := do
  let text ← Text.behind? "COMPLETION: ".toList line
  let name := text.takeWhile fun c => !Text.isBlank c
  if name.isEmpty then none
  else
    match text.dropWhile fun c => !Text.isBlank c with
    | [] => some ⟨name, none⟩
    | rest => (Text.behind? " : ".toList rest).map fun string => ⟨name, some string⟩

def cursorKindOf (chunks : List Chunk) : CursorKind :=
  if chunks.any fun chunk => chunk.kind == .leftParen then .functionDecl
  else if chunks.any fun chunk => chunk.kind == .resultType then .varDecl
  else .typedefDecl

def CompletionLine.candidate (line : CompletionLine) : Candidate × List Warning :=
  match line.string with
  | some string =>
    let (chunks, warnings) := chunksOf string
    (⟨cursorKindOf chunks, chunks⟩, warnings)
  | none =>
    let chunks : List Chunk := [⟨.typedText, String.ofList line.name⟩]
    (⟨cursorKindOf chunks, chunks⟩, [])

def completionLines (text : String) : List CompletionLine :=
  ((Text.linesFrom [] text.toList).filterMap CompletionLine.read?).filter fun line => line.name != "Pattern".toList

def candidatesOf (text : String) : List Candidate × List Warning :=
  let found := (completionLines text).map CompletionLine.candidate
  (found.map Prod.fst, found.flatMap Prod.snd)

end UnitCache.Clang
