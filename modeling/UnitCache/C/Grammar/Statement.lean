import UnitCache.C.Grammar.Level

namespace UnitCache.C

open UnitCache.Grammar
open UnitCache.Grammar.Rule
open UnitCache.C.Level

def anyExpression : Rule := .choice [.ref "expression", .ref "comma_expression"]

def condition : Rule := .field "condition" (.ref "parenthesized_expression")

def simpleStatements : List Rule :=
  ["attributed_statement", "labeled_statement", "compound_statement"].map .ref

def controlStatements : List Rule :=
  ["if_statement", "switch_statement", "do_statement", "while_statement", "for_statement", "return_statement",
    "break_statement", "continue_statement", "goto_statement"].map .ref

def statementRules : List (String × Rule) := [
  ("attributed_statement", .seq [.repeat1 (.ref "attribute_declaration"), .ref "statement"]),
  ("statement", .choice [.ref "case_statement", .ref "_non_case_statement"]),
  ("_non_case_statement", .choice (simpleStatements ++ [.ref "expression_statement"] ++ controlStatements
    ++ [.ref "seh_try_statement", .ref "seh_leave_statement"])),
  ("_top_level_statement", .choice ([.ref "case_statement"] ++ simpleStatements
    ++ [.renamed "expression_statement" (.ref "_top_level_expression_statement")] ++ controlStatements)),
  ("labeled_statement", .seq [
    .field "label" (.ref "_statement_identifier"), ":", .choice [.ref "declaration", .ref "statement"]]),
  ("_top_level_expression_statement", .seq [optional (.ref "_expression_not_binary"), ";"]),
  ("expression_statement", .seq [optional anyExpression, ";"]),
  ("if_statement", precRight 0 (.seq [
    "if", condition, .field "consequence" (.ref "statement"),
    optional (.field "alternative" (.ref "else_clause"))])),
  ("else_clause", .seq ["else", .ref "statement"]),
  ("switch_statement", .seq ["switch", condition, .field "body" (.ref "compound_statement")]),
  ("case_statement", precRight 0 (.seq [
    .choice [.seq ["case", .field "value" (.ref "expression")], "default"],
    ":",
    repeated (.choice [.ref "_non_case_statement", .ref "declaration", .ref "type_definition"])])),
  ("while_statement", .seq ["while", condition, .field "body" (.ref "statement")]),
  ("do_statement", .seq ["do", .field "body" (.ref "statement"), "while", condition, ";"]),
  ("for_statement", .seq [
    "for", "(", .ref "_for_statement_body", ")", .field "body" (.ref "statement")]),
  ("_for_statement_body", .seq [
    .choice [
      .field "initializer" (.ref "declaration"),
      .seq [.field "initializer" (optional anyExpression), ";"]],
    .field "condition" (optional anyExpression), ";", .field "update" (optional anyExpression)]),
  ("return_statement", .seq ["return", optional anyExpression, ";"]),
  ("break_statement", .seq ["break", ";"]),
  ("continue_statement", .seq ["continue", ";"]),
  ("goto_statement", .seq ["goto", .field "label" (.ref "_statement_identifier"), ";"]),
  ("seh_try_statement", .seq [
    "__try", .field "body" (.ref "compound_statement"),
    .choice [.ref "seh_except_clause", .ref "seh_finally_clause"]]),
  ("seh_except_clause", .seq [
    "__except", .field "filter" (.ref "parenthesized_expression"),
    .field "body" (.ref "compound_statement")]),
  ("seh_finally_clause", .seq ["__finally", .field "body" (.ref "compound_statement")]),
  ("seh_leave_statement", .seq ["__leave", ";"])]

end UnitCache.C
