import ComponentBundle.Script.Parser.State

/-!
# Goals of parsers

The rules of the grammar refer to each other. Each of them is given the parsers of the goals that it
refers to, and the parser of a script ties them together.
-/
namespace ComponentBundle.Script

/-- What a rule of the grammar may ask for. -/
inductive Goal where
  | expression
  /-- Whether a function written with an arrow may say what type it returns. -/
  | assignment (returns : Bool)
  /-- Operators that bind more than the given strength. -/
  | binary (strength : Nat)
  | unary
  | member
  | statement (isSingle : Bool)
  | pattern
  | type

/-- What a parser of the goal results in. -/
abbrev Goal.Result : Goal → Type
  | .expression | .assignment _ | .binary _ | .unary | .member => Expr
  | .statement _ => Stmt
  | .pattern => Pattern
  | .type => Unit

structure Grammar where
  run : (goal : Goal) → Parser goal.Result

namespace Grammar

variable (g : Grammar)

def expression : Parser Expr := g.run .expression

/-- An expression without commas. -/
def assignment (returns : Bool) : Parser Expr := g.run (.assignment returns)

/-- An expression without commas where `in` is an operator. -/
def value : Parser Expr := Parser.withIn (g.run (.assignment true))

/-- An expression of operators that bind more than the given strength. -/
def binary (strength : Nat) : Parser Expr := g.run (.binary strength)

/-- An expression of operators in front of one value. -/
def unary : Parser Expr := g.run .unary

def member : Parser Expr := g.run .member

def statement : Parser Stmt := g.run (.statement false)

def single : Parser Stmt := g.run (.statement true)

def pattern : Parser Pattern := g.run .pattern

def type : Parser Unit := g.run .type

end Grammar

end ComponentBundle.Script
