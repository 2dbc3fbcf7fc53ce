import UnitCache.C.Grammar.Level
import UnitCache.C.Token
/-!
Grammar of the file and of preprocessor lines. A conditional is a node around what its branches hold, so each kind
of list that may have conditionals inside has conditionals of its own.
-/
namespace UnitCache.C

open UnitCache.Grammar
open UnitCache.Grammar.Rule
open UnitCache.C.Level

def items (statement : String) : Rule :=
  .choice [
    .ref "function_definition",
    .renamed "function_definition" (.ref "_old_style_function_definition"),
    .ref "linkage_specification",
    .ref "declaration",
    .ref statement,
    .ref "attributed_statement",
    .ref "type_definition",
    .ref "_empty_declaration",
    .ref "preproc_if",
    .ref "preproc_ifdef",
    .ref "preproc_include",
    .ref "preproc_def",
    .ref "preproc_function_def",
    .ref "preproc_call"]

def directive (word : String) : Rule := .token (Token.directive word)

def directiveEnd : Rule := .token Token.directiveEnd

/-- The conditionals around a content; `suffix` tells their rules from those around another content. -/
def conditionals (suffix : String) (level : Int) (content : Rule) : List (String × Rule) :=
  let branch (name : String) : Rule :=
    if suffix.isEmpty then .ref name else .renamed name (.ref (name ++ suffix))
  let alternative : Rule :=
    .field "alternative"
      (optional (.choice [branch "preproc_else", branch "preproc_elif", branch "preproc_elifdef"]))
  let condition : Rule := .field "condition" (.ref "_preproc_expression")
  let name : Rule := .field "name" (.ref "identifier")
  [("preproc_if" ++ suffix, prec level (.seq [
      directive "if", condition, "\n", repeated content, alternative, directive "endif"])),
    ("preproc_ifdef" ++ suffix, prec level (.seq [
      .choice [directive "ifdef", directive "ifndef"], name, repeated content, alternative, directive "endif"])),
    ("preproc_else" ++ suffix, prec level (.seq [directive "else", repeated content])),
    ("preproc_elif" ++ suffix, prec level (.seq [
      directive "elif", condition, "\n", repeated content, alternative])),
    ("preproc_elifdef" ++ suffix, prec level (.seq [
      .choice [directive "elifdef", directive "elifndef"], name, repeated content, alternative]))]

def fileRules : List (String × Rule) := [
  ("translation_unit", repeated (.ref "_top_level_item")),
  ("_top_level_item", items "_top_level_statement"),
  ("_block_item", items "statement"),
  ("preproc_include", .seq [
    directive "include",
    .field "path" (.choice [
      .ref "string_literal", .ref "system_lib_string", .ref "identifier",
      .renamed "call_expression" (.ref "preproc_call_expression")]),
    directiveEnd]),
  ("preproc_def", .seq [
    directive "define", .field "name" (.ref "identifier"), .field "value" (optional (.ref "preproc_arg")),
    directiveEnd]),
  ("preproc_function_def", .seq [
    directive "define", .field "name" (.ref "identifier"), .field "parameters" (.ref "preproc_params"),
    .field "value" (optional (.ref "preproc_arg")), directiveEnd]),
  ("preproc_params", .seq [
    .token Token.macroParenthesis, commaSeparated (.choice [.ref "identifier", "..."]), ")"]),
  ("preproc_call", .seq [
    .field "directive" (.ref "preproc_directive"), .field "argument" (optional (.ref "preproc_arg")),
    directiveEnd])]

def conditionalRules : List (String × Rule) :=
  conditionals "" 0 (.ref "_block_item")
    ++ conditionals "_in_field_declaration_list" 0 (.ref "_field_declaration_list_item")
    ++ conditionals "_in_enumerator_list" 0 (.seq [.ref "enumerator", ","])
    ++ conditionals "_in_enumerator_list_no_comma" (-1) (.ref "enumerator")

def conditionRules : List (String × Rule) := [
  ("preproc_arg", .token Token.directiveArgument),
  ("preproc_directive", .token Token.anyDirective),
  ("_preproc_expression", .choice [
    .ref "identifier",
    .renamed "call_expression" (.ref "preproc_call_expression"),
    .ref "number_literal",
    .ref "char_literal",
    .ref "preproc_defined",
    .renamed "unary_expression" (.ref "preproc_unary_expression"),
    .renamed "binary_expression" (.ref "preproc_binary_expression"),
    .renamed "parenthesized_expression" (.ref "preproc_parenthesized_expression")]),
  ("preproc_parenthesized_expression", .seq ["(", .ref "_preproc_expression", ")"]),
  ("preproc_defined", .choice [
    prec call (.seq ["defined", "(", .ref "identifier", ")"]),
    .seq ["defined", .ref "identifier"]]),
  ("preproc_unary_expression", precLeft unary (.seq [
    .field "operator" (oneOf ["!", "~", "-", "+"]), .field "argument" (.ref "_preproc_expression")])),
  ("preproc_call_expression", prec call (.seq [
    .field "function" (.ref "identifier"),
    .field "arguments" (.renamed "argument_list" (.ref "preproc_argument_list"))])),
  ("preproc_argument_list", .seq ["(", commaSeparated (.ref "_preproc_expression"), ")"]),
  ("preproc_binary_expression", binary (.ref "_preproc_expression"))]

def preprocessorRules : List (String × Rule) := fileRules ++ conditionalRules ++ conditionRules

end UnitCache.C
