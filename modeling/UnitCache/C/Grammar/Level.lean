import UnitCache.Grammar.Rule

namespace UnitCache.C.Level

open UnitCache.Grammar

def parenthesizedDeclarator : Int := -10
def assignment : Int := -2
def conditional : Int := -1
def logicalOr : Int := 1
def logicalAnd : Int := 2
def inclusiveOr : Int := 3
def exclusiveOr : Int := 4
def bitwiseAnd : Int := 5
def equal : Int := 6
def relational : Int := 7
def offsetOf : Int := 8
def shift : Int := 9
def add : Int := 10
def multiply : Int := 11
def cast : Int := 12
def sizeOf : Int := 13
def unary : Int := 14
def call : Int := 15
def member : Int := 16
def subscript : Int := 17

def binaryOperators : List (String × Int) := [
  ("+", add), ("-", add), ("*", multiply), ("/", multiply), ("%", multiply),
  ("||", logicalOr), ("&&", logicalAnd), ("|", inclusiveOr), ("^", exclusiveOr), ("&", bitwiseAnd),
  ("==", equal), ("!=", equal), (">", relational), (">=", relational), ("<=", relational), ("<", relational),
  ("<<", shift), (">>", shift)]

def binary (operand : Rule) : Rule :=
  .choice (binaryOperators.map fun (operator, level) =>
    .precLeft level (.seq [.field "left" operand, .field "operator" operator, .field "right" operand]))

def oneOf (texts : List String) : Rule := .choice (texts.map .text)

def anyOf (names : List String) : Rule := .choice (names.map .ref)

end UnitCache.C.Level
