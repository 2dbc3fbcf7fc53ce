import UnitCache.C.Grammar.Declaration
import UnitCache.C.Grammar.Expression
import UnitCache.C.Grammar.Preprocessor

namespace UnitCache.C

open UnitCache.Grammar

def grammar : Language where
  rules := preprocessorRules ++ declarationRules ++ statementRules ++ expressionRules
  inlined := [
    "_type_identifier", "_field_identifier", "_statement_identifier", "_non_case_statement",
    "_assignment_left_expression", "_expression_not_binary"]
  supertypes := [
    "expression", "statement", "type_specifier", "_declarator", "_field_declarator", "_type_declarator",
    "_abstract_declarator"]
  word := "identifier"
  extra := "comment"
  blanks := Token.blanks
  boundaries := ["#endif", "#else", "#elif", "#elifdef", "#elifndef", "\n", "directive_end", "long", "="]
  unskippable := [
    "directive_end", "\n", "preproc_arg", "::", "]]", "character", "string_content", "escape_sequence",
    "system_lib_string"]

end UnitCache.C
