import UnitCache.C.IdentifierChars
import UnitCache.Grammar.Rule

namespace UnitCache.C

open UnitCache.Grammar

namespace Token

def between (first last : Char) : Pattern := .chars (.between first last)

/-- Blank characters; only those of ASCII count. -/
def blank : CharSet := .ofChars [' ', '\t', '\r', '\n', '\x0b', '\x0c']

def digit : Pattern := between '0' '9'

def hexDigit : Pattern := .any [between '0' '9', between 'a' 'f', between 'A' 'F']

def letterOrDigit : Pattern := .any [between '0' '9', between 'a' 'z', between 'A' 'Z']

def wordChar : Pattern := .alt letterOrDigit (.char '_')

def lineBreak : Pattern := .seq (.optional (.char '\r')) (.char '\n')

def continuation : Pattern := .seq (.char '\\') lineBreak

def blanks : Pattern := .alt (.chars blank) continuation

def universalName : Pattern :=
  .seq (.char '\\') (.alt (.seq (.char 'u') (.times 4 hexDigit)) (.seq (.char 'U') (.times 8 hexDigit)))

def identifier : Token :=
  let dollar := ('$'.toNat, '$'.toNat)
  let underscore := ('_'.toNat, '_'.toNat)
  { name := "identifier"
    pattern := .seq
      (.alt (.chars (.ofRanges (dollar :: underscore :: identifierStarts))) universalName)
      (.star (.alt (.chars (.ofRanges (dollar :: identifierStarts ++ identifierParts))) universalName)) }

def directive (word : String) : Token :=
  { name := "#" ++ word
    pattern := .all [.char '#', .star (.oneOf " \t"), .text word] }

def anyDirective : Token :=
  { name := "preproc_directive"
    pattern := .all [.char '#', .star (.oneOf " \t"), letterOrDigit, .star wordChar] }

/-- The rest of a directive's line; any other token that is complete keeps it from going on. -/
def directiveArgument : Token :=
  { name := "preproc_arg"
    strength := -1
    pattern := .seq (.chars blank.complement)
      (.star (.any [.noneOf "/\n", .seq (.char '/') (.noneOf "*"), continuation])) }

def directiveEnd : Token :=
  { name := "directive_end", pattern := lineBreak, immediate := true, rank := 1, shown := false }

def macroParenthesis : Token :=
  { name := "macro_parenthesis", kind := "(", pattern := .char '(', immediate := true, rank := 3 }

def primitiveType : Token :=
  { name := "primitive_type"
    pattern := .any ((["bool", "char", "int", "float", "double", "void", "size_t", "ssize_t", "ptrdiff_t",
        "intptr_t", "uintptr_t", "charptr_t", "nullptr_t", "max_align_t"]
      ++ (["int", "uint", "char"].flatMap fun stem =>
        ["8", "16", "32", "64"].map fun width => stem ++ width ++ "_t")).map .text) }

def grouped (one : Pattern) : Pattern := .seq (.plus one) (.star (.seq (.char '\'') (.plus one)))

def number : Token :=
  let sign := Pattern.optional (.oneOf "+-")
  let hexMark := Pattern.seq (.char '0') (.oneOf "xX")
  let binaryMark := Pattern.seq (.char '0') (.oneOf "bB")
  { name := "number_literal"
    pattern := .all [
      sign,
      .optional (.alt hexMark binaryMark),
      .alt
        (.seq
          (.any [grouped digit, .seq binaryMark (grouped digit), .seq hexMark (grouped hexDigit)])
          (.optional (.seq (.char '.') (.optional (grouped hexDigit)))))
        (.seq (.char '.') (grouped digit)),
      .optional (.seq (.oneOf "eEpP") (.optional (.seq sign (grouped hexDigit)))),
      .star (.oneOf "uUlLwWfFbBdD")] }

def quotedChar : Token :=
  { name := "character", pattern := .noneOf "\n'", immediate := true, rank := 1 }

def quotedText : Token :=
  { name := "string_content", pattern := .plus (.noneOf "\\\"\n"), strength := 1, immediate := true,
    rank := 1 }

def escape : Token :=
  let optionalHex := Pattern.optional hexDigit
  { name := "escape_sequence"
    strength := 1
    pattern := .seq (.char '\\') (.any [
      .noneOf "xuU",
      .all [digit, digit, .optional digit],
      .all [.char 'x', hexDigit, optionalHex, optionalHex, optionalHex],
      .seq (.char 'u') (.times 4 hexDigit),
      .seq (.char 'U') (.times 8 hexDigit)]) }

def headerName : Token :=
  { name := "system_lib_string"
    pattern := .all [.char '<', .star (.alt (.noneOf ">\n") (.text "\\>")), .char '>'] }

def constant (name first second : String) : Token :=
  { name, pattern := .alt (.text first) (.text second) }

def comment : Token :=
  { name := "comment"
    pattern := .alt
      (.seq (.text "//")
        (.star (.alt (.seq (.plus (.char '\\')) (.alt (.noneOf "\n") lineBreak)) (.noneOf "\\\n"))))
      (.all [
        .text "/*", .star (.noneOf "*"), .plus (.char '*'),
        .star (.all [.noneOf "/*", .star (.noneOf "*"), .plus (.char '*')]), .char '/']) }

def keyword (name content : String) : Token := { name, pattern := .text content, rank := 2 }

end Token

end UnitCache.C
