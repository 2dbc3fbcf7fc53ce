import UnitCache.C.Grammar.Statement
import UnitCache.C.Token

namespace UnitCache.C

open UnitCache.Grammar
open UnitCache.Grammar.Rule
open UnitCache.C.Level

def operatorRules : List (String × Rule) := [
  ("expression", .choice [.ref "_expression_not_binary", .ref "binary_expression"]),
  ("_expression_not_binary", anyOf [
    "conditional_expression", "assignment_expression", "unary_expression", "update_expression",
    "cast_expression", "pointer_expression", "sizeof_expression", "alignof_expression",
    "offsetof_expression", "generic_expression", "subscript_expression", "call_expression",
    "field_expression", "compound_literal_expression", "identifier", "number_literal", "_string", "true",
    "false", "null", "char_literal", "parenthesized_expression", "gnu_asm_expression",
    "extension_expression"]),
  ("_string", precLeft 0 (anyOf ["string_literal", "concatenated_string"])),
  ("comma_expression", .seq [
    .field "left" (.ref "expression"), ",", .field "right" anyExpression]),
  ("conditional_expression", precRight conditional (.seq [
    .field "condition" (.ref "expression"), "?", optional (.field "consequence" anyExpression), ":",
    .field "alternative" (.ref "expression")])),
  ("_assignment_left_expression", anyOf [
    "identifier", "call_expression", "field_expression", "pointer_expression", "subscript_expression",
    "parenthesized_expression"]),
  ("assignment_expression", precRight assignment (.seq [
    .field "left" (.ref "_assignment_left_expression"),
    .field "operator" (oneOf ["=", "*=", "/=", "%=", "+=", "-=", "<<=", ">>=", "&=", "^=", "|="]),
    .field "right" (.ref "expression")])),
  ("pointer_expression", precLeft cast (.seq [
    .field "operator" (oneOf ["*", "&"]), .field "argument" (.ref "expression")])),
  ("unary_expression", precLeft unary (.seq [
    .field "operator" (oneOf ["!", "~", "-", "+"]), .field "argument" (.ref "expression")])),
  ("binary_expression", binary (.ref "expression")),
  ("update_expression", precRight unary (.choice [
    .seq [.field "operator" (oneOf ["--", "++"]), .field "argument" (.ref "expression")],
    .seq [.field "argument" (.ref "expression"), .field "operator" (oneOf ["--", "++"])]])),
  ("cast_expression", prec cast (.seq [
    "(", .field "type" (.ref "type_descriptor"), ")", .field "value" (.ref "expression")])),
  ("type_descriptor", .seq [
    repeated (.ref "type_qualifier"), .field "type" (.ref "type_specifier"),
    repeated (.ref "type_qualifier"), .field "declarator" (optional (.ref "_abstract_declarator"))]),
  ("sizeof_expression", prec sizeOf (.seq [
    "sizeof",
    .choice [
      .field "value" (.ref "expression"),
      .seq ["(", .field "type" (.ref "type_descriptor"), ")"]]])),
  ("alignof_expression", prec sizeOf (.seq [
    oneOf ["__alignof__", "__alignof", "_alignof", "alignof", "_Alignof"],
    .seq ["(", .field "type" (.ref "type_descriptor"), ")"]])),
  ("offsetof_expression", prec offsetOf (.seq [
    "offsetof",
    .seq [
      "(", .field "type" (.ref "type_descriptor"), ",", .field "member" (.ref "_field_identifier"), ")"]])),
  ("generic_expression", prec call (.seq [
    "_Generic", "(", .ref "expression", ",",
    commaSeparated1 (.seq [.ref "type_descriptor", ":", .ref "expression"]), ")"])),
  ("subscript_expression", prec subscript (.seq [
    .field "argument" (.ref "expression"), "[", .field "index" (.ref "expression"), "]"])),
  ("call_expression", prec call (.seq [
    .field "function" (.ref "expression"), .field "arguments" (.ref "argument_list")]))]

def assemblerOperand : Rule :=
  .seq [
    optional (.seq ["[", .field "symbol" (.ref "identifier"), "]"]),
    .field "constraint" (.ref "string_literal"), "(", .field "value" (.ref "expression"), ")"]

def assemblerRules : List (String × Rule) := [
  ("gnu_asm_expression", prec call (.seq [
    oneOf ["asm", "__asm__", "__asm"], repeated (.ref "gnu_asm_qualifier"), "(",
    .field "assembly_code" (.ref "_string"),
    optional (.seq [
      .field "output_operands" (.ref "gnu_asm_output_operand_list"),
      optional (.seq [
        .field "input_operands" (.ref "gnu_asm_input_operand_list"),
        optional (.seq [
          .field "clobbers" (.ref "gnu_asm_clobber_list"),
          optional (.field "goto_labels" (.ref "gnu_asm_goto_list"))])])]),
    ")"])),
  ("gnu_asm_qualifier", oneOf ["volatile", "__volatile__", "inline", "goto"]),
  ("gnu_asm_output_operand_list", .seq [
    ":", commaSeparated (.field "operand" (.ref "gnu_asm_output_operand"))]),
  ("gnu_asm_output_operand", assemblerOperand),
  ("gnu_asm_input_operand_list", .seq [
    ":", commaSeparated (.field "operand" (.ref "gnu_asm_input_operand"))]),
  ("gnu_asm_input_operand", assemblerOperand),
  ("gnu_asm_clobber_list", .seq [":", commaSeparated (.field "register" (.ref "_string"))]),
  ("gnu_asm_goto_list", .seq [":", commaSeparated (.field "label" (.ref "identifier"))])]

def compositeRules : List (String × Rule) := [
  ("extension_expression", .seq ["__extension__", .ref "expression"]),
  ("argument_list", .seq [
    "(", commaSeparated (.choice [.ref "expression", .ref "compound_statement"]), ")"]),
  ("field_expression", .seq [
    prec member (.seq [
      .field "argument" (.ref "expression"), .field "operator" (oneOf [".", "->"])]),
    .field "field" (.ref "_field_identifier")]),
  ("compound_literal_expression", .seq [
    "(", .field "type" (.ref "type_descriptor"), ")", .field "value" (.ref "initializer_list")]),
  ("parenthesized_expression", .seq [
    "(", .choice [.ref "expression", .ref "comma_expression", .ref "compound_statement"], ")"]),
  ("initializer_list", .seq [
    "\x7b",
    commaSeparated (.choice [.ref "initializer_pair", .ref "expression", .ref "initializer_list"]),
    optional ",", "\x7d"]),
  ("initializer_pair", .choice [
    .seq [
      .field "designator" (.repeat1 (anyOf [
        "subscript_designator", "field_designator", "subscript_range_designator"])),
      "=", .field "value" (.choice [.ref "expression", .ref "initializer_list"])],
    .seq [
      .field "designator" (.ref "_field_identifier"), ":",
      .field "value" (.choice [.ref "expression", .ref "initializer_list"])]]),
  ("subscript_designator", .seq ["[", .ref "expression", "]"]),
  ("subscript_range_designator", .seq [
    "[", .field "start" (.ref "expression"), "...", .field "end" (.ref "expression"), "]"]),
  ("field_designator", .seq [".", .ref "_field_identifier"])]

def literalRules : List (String × Rule) := [
  ("number_literal", .token Token.number),
  ("char_literal", .seq [
    oneOf ["L'", "u'", "U'", "u8'", "'"],
    .repeat1 (.choice [.ref "escape_sequence", .token Token.quotedChar]), "'"]),
  ("concatenated_string", precRight 0 (.seq [
    .choice [.ref "identifier", .ref "string_literal"], .ref "string_literal",
    repeated (.choice [.ref "string_literal", .ref "identifier"])])),
  ("string_literal", .seq [
    oneOf ["L\"", "u\"", "U\"", "u8\"", "\""],
    repeated (.choice [.token Token.quotedText, .ref "escape_sequence"]), "\""]),
  ("escape_sequence", .token Token.escape),
  ("system_lib_string", .token Token.headerName),
  ("true", .token (Token.constant "true" "TRUE" "true")),
  ("false", .token (Token.constant "false" "FALSE" "false")),
  ("null", oneOf ["NULL", "nullptr"]),
  ("identifier", .token Token.identifier),
  ("_type_identifier", .renamed "type_identifier" (.ref "identifier")),
  ("_field_identifier", .renamed "field_identifier" (.ref "identifier")),
  ("_statement_identifier", .renamed "statement_identifier" (.ref "identifier")),
  ("_empty_declaration", .seq [.ref "type_specifier", ";"]),
  ("macro_type_specifier", .dynamic (-1) (.seq [
    .field "name" (.ref "identifier"), "(", .field "type" (.ref "type_descriptor"), ")"])),
  ("comment", .token Token.comment)]

def expressionRules : List (String × Rule) :=
  operatorRules ++ assemblerRules ++ compositeRules ++ literalRules

end UnitCache.C
