import UnitCache.C.Grammar.Level
import UnitCache.C.Token

namespace UnitCache.C

open UnitCache.Grammar
open UnitCache.Grammar.Rule
open UnitCache.C.Level

def definitionRules : List (String × Rule) := [
  ("function_definition", .seq [
    optional (.ref "ms_call_modifier"), .ref "_declaration_specifiers", optional (.ref "ms_call_modifier"),
    .field "declarator" (.ref "_declarator"), .field "body" (.ref "compound_statement")]),
  ("_old_style_function_definition", .seq [
    optional (.ref "ms_call_modifier"), .ref "_declaration_specifiers",
    .field "declarator" (.renamed "function_declarator" (.ref "_old_style_function_declarator")),
    repeated (.ref "declaration"), .field "body" (.ref "compound_statement")]),
  ("declaration", .seq [
    .ref "_declaration_specifiers",
    commaSeparated1 (.field "declarator" (.choice [
      .seq [
        optional (.ref "ms_call_modifier"), .ref "_declaration_declarator",
        optional (.ref "gnu_asm_expression")],
      .ref "init_declarator"])),
    ";"]),
  ("type_definition", .seq [
    optional "__extension__", "typedef", .ref "_type_definition_type", .ref "_type_definition_declarators",
    repeated (.ref "attribute_specifier"), ";"]),
  ("_type_definition_type", .seq [
    repeated (.ref "type_qualifier"), .field "type" (.ref "type_specifier"),
    repeated (.ref "type_qualifier")]),
  ("_type_definition_declarators", commaSeparated1 (.field "declarator" (.ref "_type_declarator"))),
  ("_declaration_modifiers", anyOf [
    "storage_class_specifier", "type_qualifier", "attribute_specifier", "attribute_declaration",
    "ms_declspec_modifier"]),
  ("_declaration_specifiers", precRight 0 (.seq [
    repeated (.ref "_declaration_modifiers"), .field "type" (.ref "type_specifier"),
    repeated (.ref "_declaration_modifiers")])),
  ("linkage_specification", .seq [
    "extern", .field "value" (.ref "string_literal"),
    .field "body" (anyOf ["function_definition", "declaration", "declaration_list"])]),
  ("attribute_specifier", .seq [
    oneOf ["__attribute__", "__attribute"], "(", .ref "argument_list", ")"]),
  ("attribute", .seq [
    optional (.seq [.field "prefix" (.ref "identifier"), "::"]), .field "name" (.ref "identifier"),
    optional (.ref "argument_list")]),
  ("attribute_declaration", .seq ["[[", commaSeparated1 (.ref "attribute"), "]]"]),
  ("ms_declspec_modifier", .seq ["__declspec", "(", .ref "identifier", ")"]),
  ("ms_based_modifier", .seq ["__based", .ref "argument_list"]),
  ("ms_call_modifier", oneOf [
    "__cdecl", "__clrcall", "__stdcall", "__fastcall", "__thiscall", "__vectorcall"]),
  ("ms_restrict_modifier", .token (Token.keyword "ms_restrict_modifier" "__restrict")),
  ("ms_unsigned_ptr_modifier", .token (Token.keyword "ms_unsigned_ptr_modifier" "__uptr")),
  ("ms_signed_ptr_modifier", .token (Token.keyword "ms_signed_ptr_modifier" "__sptr")),
  ("ms_unaligned_ptr_modifier", oneOf ["_unaligned", "__unaligned"]),
  ("ms_pointer_modifier", anyOf [
    "ms_unaligned_ptr_modifier", "ms_restrict_modifier", "ms_unsigned_ptr_modifier",
    "ms_signed_ptr_modifier"]),
  ("declaration_list", .seq ["\x7b", repeated (.ref "_block_item"), "\x7d"])]

/-- The places declarators stand in; each has declarators of its own that show under the same names. -/
inductive Place where
  | plain
  | field
  | type

def Place.infixName : Place → String
  | .plain => ""
  | .field => "_field"
  | .type => "_type"

def Place.declarator (place : Place) : Rule := .ref (place.infixName ++ "_declarator")

def Place.named (place : Place) (kind : String) (body : Rule) : String × Rule :=
  (kind ++ place.infixName ++ "_declarator", body)

def Place.aliases (place : Place) : List Rule :=
  ["attributed", "pointer", "function", "array", "parenthesized"].map fun kind =>
    .renamed (kind ++ "_declarator") (.ref (kind ++ place.infixName ++ "_declarator"))

def arraySize : List Rule := [
  "[", repeated (.choice [.ref "type_qualifier", "static"]),
  .field "size" (optional (.choice [.ref "expression", "*"])), "]"]

def parenthesized (declarator : Rule) : Rule :=
  .seq ["(", optional (.ref "ms_call_modifier"), declarator, ")"]

def declaratorClassRules : List (String × Rule) := [
  ("_declarator", anyOf [
    "attributed_declarator", "pointer_declarator", "function_declarator", "array_declarator",
    "parenthesized_declarator", "identifier"]),
  ("_declaration_declarator", .choice [
    .ref "attributed_declarator", .ref "pointer_declarator",
    .renamed "function_declarator" (.ref "_function_declaration_declarator"),
    .ref "array_declarator", .ref "parenthesized_declarator", .ref "identifier"]),
  ("_field_declarator", .choice (Place.field.aliases ++ [.ref "_field_identifier"])),
  ("_type_declarator", .choice (Place.type.aliases ++ [
    .ref "_type_identifier", .renamed "primitive_type" (oneOf ["signed", "unsigned", "long", "short"]),
    .ref "primitive_type"])),
  ("_abstract_declarator", anyOf [
    "abstract_pointer_declarator", "abstract_function_declarator", "abstract_array_declarator",
    "abstract_parenthesized_declarator"])]

def outerDeclaratorRules : List (String × Rule) :=
  let places : List Place := [.plain, .field, .type]
  places.map (fun place => place.named "parenthesized"
      (.dynamic parenthesizedDeclarator (parenthesized place.declarator)))
    ++ [("abstract_parenthesized_declarator", prec 1 (parenthesized (.ref "_abstract_declarator")))]
    ++ places.map (fun place => place.named "attributed"
      (precRight 0 (.seq [place.declarator, .repeat1 (.ref "attribute_declaration")])))
    ++ places.map (fun place => place.named "pointer"
      (.dynamic 1 (precRight 0 (.seq [
        optional (.ref "ms_based_modifier"), "*", repeated (.ref "ms_pointer_modifier"),
        repeated (.ref "type_qualifier"), .field "declarator" place.declarator]))))
    ++ [("abstract_pointer_declarator", .dynamic 1 (precRight 0 (.seq [
        "*", repeated (.ref "ms_pointer_modifier"), repeated (.ref "type_qualifier"),
        .field "declarator" (optional (.ref "_abstract_declarator"))])))]

def innerDeclaratorRules : List (String × Rule) := [
  ("function_declarator", precRight 1 (.seq [
    .field "declarator" (.ref "_declarator"), .field "parameters" (.ref "parameter_list"),
    optional (.ref "gnu_asm_expression"),
    repeated (.choice [
      .ref "attribute_specifier", .ref "identifier",
      .renamed "call_expression" (.ref "preproc_call_expression")])])),
  ("_function_declaration_declarator", precRight 1 (.seq [
    .field "declarator" (.ref "_declarator"), .field "parameters" (.ref "parameter_list"),
    optional (.ref "gnu_asm_expression"), repeated (.ref "attribute_specifier")])),
  ("function_field_declarator", prec 1 (.seq [
    .field "declarator" (.ref "_field_declarator"), .field "parameters" (.ref "parameter_list")])),
  ("function_type_declarator", prec 1 (.seq [
    .field "declarator" (.ref "_type_declarator"), .field "parameters" (.ref "parameter_list")])),
  ("abstract_function_declarator", prec 1 (.seq [
    .field "declarator" (optional (.ref "_abstract_declarator")),
    .field "parameters" (.ref "parameter_list")])),
  ("_old_style_function_declarator", .seq [
    .field "declarator" (.ref "_declarator"),
    .field "parameters" (.renamed "parameter_list" (.ref "_old_style_parameter_list"))]),
  ("array_declarator", prec 1 (.seq (.field "declarator" (.ref "_declarator") :: arraySize))),
  ("array_field_declarator", prec 1 (.seq (.field "declarator" (.ref "_field_declarator") :: arraySize))),
  ("array_type_declarator", prec 1 (.seq (.field "declarator" (.ref "_type_declarator") :: arraySize))),
  ("abstract_array_declarator", prec 1 (.seq
    (.field "declarator" (optional (.ref "_abstract_declarator")) :: arraySize))),
  ("init_declarator", .seq [
    .field "declarator" (.ref "_declarator"), "=",
    .field "value" (.choice [.ref "initializer_list", .ref "expression"])]),
  ("compound_statement", .seq ["\x7b", repeated (.ref "_block_item"), "\x7d"])]

def sizeWord : Rule := oneOf ["signed", "unsigned", "long", "short"]

/-- The type a size word may stand with; a name of the program's own is the weaker reading. -/
def sizedBase : Rule :=
  .field "type" (optional (.choice [.dynamic (-1) (.ref "_type_identifier"), .ref "primitive_type"]))

def aggregate : Rule :=
  .choice [
    .seq [.field "name" (.ref "_type_identifier"), .field "body" (optional (.ref "field_declaration_list"))],
    .field "body" (.ref "field_declaration_list")]

def typeRules : List (String × Rule) := [
  ("storage_class_specifier", oneOf [
    "extern", "static", "auto", "register", "inline", "__inline", "__inline__", "__forceinline",
    "thread_local", "__thread"]),
  ("type_qualifier", .choice (["const", "constexpr", "volatile", "restrict", "__restrict__", "__extension__",
    "_Atomic", "_Noreturn", "noreturn", "_Nonnull"].map .text ++ [.ref "alignas_qualifier"])),
  ("alignas_qualifier", .seq [
    oneOf ["alignas", "_Alignas"], "(", .choice [.ref "expression", .ref "type_descriptor"], ")"]),
  ("type_specifier", anyOf [
    "struct_specifier", "union_specifier", "enum_specifier", "macro_type_specifier",
    "sized_type_specifier", "primitive_type", "_type_identifier"]),
  ("sized_type_specifier", .choice [
    .seq [repeated sizeWord, sizedBase, .repeat1 sizeWord],
    .seq [.repeat1 sizeWord, repeated (.ref "type_qualifier"), sizedBase, repeated sizeWord]]),
  ("primitive_type", .token Token.primitiveType),
  ("enum_specifier", .seq [
    "enum",
    .choice [
      .seq [
        .field "name" (.ref "_type_identifier"),
        optional (.seq [":", .field "underlying_type" (.ref "primitive_type")]),
        .field "body" (optional (.ref "enumerator_list"))],
      .field "body" (.ref "enumerator_list")],
    optional (.ref "attribute_specifier")]),
  ("enumerator_list", .seq [
    "\x7b",
    repeated (.choice [
      .seq [.ref "enumerator", ","],
      .renamed "preproc_if" (.ref "preproc_if_in_enumerator_list"),
      .renamed "preproc_ifdef" (.ref "preproc_ifdef_in_enumerator_list"),
      .seq [.ref "preproc_call", ","]]),
    optional (.choice [
      .ref "enumerator",
      .renamed "preproc_if" (.ref "preproc_if_in_enumerator_list_no_comma"),
      .renamed "preproc_ifdef" (.ref "preproc_ifdef_in_enumerator_list_no_comma"),
      .ref "preproc_call"]),
    "\x7d"]),
  ("struct_specifier", precRight 0 (.seq [
    "struct", optional (.ref "attribute_specifier"), optional (.ref "ms_declspec_modifier"), aggregate,
    optional (.ref "attribute_specifier")])),
  ("union_specifier", precRight 0 (.seq [
    "union", optional (.ref "ms_declspec_modifier"), aggregate, optional (.ref "attribute_specifier")])),
  ("field_declaration_list", .seq ["\x7b", repeated (.ref "_field_declaration_list_item"), "\x7d"]),
  ("_field_declaration_list_item", .choice [
    .ref "field_declaration", .ref "preproc_def", .ref "preproc_function_def", .ref "preproc_call",
    .renamed "preproc_if" (.ref "preproc_if_in_field_declaration_list"),
    .renamed "preproc_ifdef" (.ref "preproc_ifdef_in_field_declaration_list")]),
  ("field_declaration", .seq [
    .ref "_declaration_specifiers", optional (.ref "_field_declaration_declarator"),
    optional (.ref "attribute_specifier"), ";"]),
  ("_field_declaration_declarator", commaSeparated1 (.seq [
    .field "declarator" (.ref "_field_declarator"), optional (.ref "bitfield_clause")])),
  ("bitfield_clause", .seq [":", .ref "expression"]),
  ("enumerator", .seq [
    .field "name" (.ref "identifier"), optional (.seq ["=", .field "value" (.ref "expression")])]),
  ("variadic_parameter", .seq ["..."]),
  ("parameter_list", .seq [
    "(",
    .choice [
      commaSeparated (.choice [.ref "parameter_declaration", .ref "variadic_parameter"]),
      .ref "compound_statement"],
    ")"]),
  ("_old_style_parameter_list", .seq [
    "(", commaSeparated (.choice [.ref "identifier", .ref "variadic_parameter"]), ")"]),
  ("parameter_declaration", .seq [
    .ref "_declaration_specifiers",
    optional (.field "declarator" (.choice [.ref "_declarator", .ref "_abstract_declarator"])),
    repeated (.ref "attribute_specifier")])]

def declarationRules : List (String × Rule) :=
  definitionRules ++ declaratorClassRules ++ outerDeclaratorRules ++ innerDeclaratorRules ++ typeRules

end UnitCache.C
