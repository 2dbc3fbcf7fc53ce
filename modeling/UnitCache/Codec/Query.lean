import UnitCache.Json.Fields
import UnitCache.Location
import UnitCache.Query

namespace UnitCache

def Json.ofWord (value : UInt32) : Json := .natural value.toNat

def Json.ofLongWord (value : UInt64) : Json := .natural value.toNat

namespace Path

def toJson (path : Path) : Json := .ofString path.text

def ofJson? (value : Json) : Option Path := value.text?.map Path.mk

end Path

namespace Location

def toJson (location : Location) : Json :=
  .ofMembers [("file", .ofString location.file), ("line", .ofWord location.line),
    ("column", .ofWord location.column)]

def ofJson? (value : Json) : Option Location := do
  match ← value.fields? ["file", "line", "column"] with
  | [file, line, column] =>
    some ⟨← file.required Json.text?, ← line.required Json.word?, ← column.required Json.word?⟩
  | _ => none

end Location

namespace SourceFile

def toJson (file : SourceFile) : Json :=
  .ofMembers [("name", file.name.toJson), ("contents", .ofString file.contents)]

def ofJson? (value : Json) : Option SourceFile := do
  match ← value.fields? ["name", "contents"] with
  | [name, contents] => some ⟨← name.required Path.ofJson?, ← contents.orDefault "" Json.text?⟩
  | _ => none

end SourceFile

namespace Cursor

def toJson (cursor : Cursor) : Json :=
  .ofMembers [("file", cursor.file.toJson), ("line", .ofWord cursor.line), ("column", .ofWord cursor.column)]

def ofJson? (value : Json) : Option Cursor := do
  match ← value.fields? ["file", "line", "column"] with
  | [file, line, column] =>
    some ⟨← file.required SourceFile.ofJson?, ← line.required Json.word?, ← column.required Json.word?⟩
  | _ => none

end Cursor

namespace CompletionQuery

def toJson (query : CompletionQuery) : Json := .ofMembers [("location", query.cursor.toJson)]

def ofJson? (value : Json) : Option CompletionQuery := do
  match ← value.fields? ["location"] with
  | [location] => some ⟨← location.required Cursor.ofJson?⟩
  | _ => none

end CompletionQuery

end UnitCache
