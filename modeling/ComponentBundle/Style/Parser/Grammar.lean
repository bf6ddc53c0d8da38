import ComponentBundle.Style.Parser.Layout

/-!
# Goals of the parsers of styles

The rules of the grammar refer to each other. Each of them is given the parsers of the goals that it
refers to, and the parser of a style ties them together.
-/
namespace ComponentBundle.Style

/-- Where an expression stops before its end. -/
inductive Limit where
  | none
  | comma
  | range
  | comparison
  deriving DecidableEq

/-- What a block holds. -/
inductive Child where
  | statement
  | declaration
  | function
  deriving DecidableEq

/-- What a rule of the grammar may ask for. -/
inductive Goal where
  /-- An expression, perhaps in brackets, perhaps with `=` as an operator. -/
  | term (limit : Limit) (isBracketed hasSingleEqual : Bool)
  | sum
  | child (kind : Child)
  /-- The condition of an `@supports` rule, or a part of it. -/
  | condition (isPart : Bool)
  | feature

/-- What a parser of the goal results in. -/
abbrev Goal.Result : Goal → Type
  | .term .. | .sum => Term
  | .child _ => Option Statement
  | .condition _ => Condition
  | .feature => List Piece

structure Grammar where
  run : (goal : Goal) → Parser goal.Result

namespace Grammar

variable (g : Grammar)

def term : Parser Term := g.run (.term .none false false)

/-- An expression up to a comma. -/
def item (hasSingleEqual : Bool) : Parser Term := g.run (.term .comma false hasSingleEqual)

def bracketed : Parser Term := g.run (.term .none true false)

def bound : Parser Term := g.run (.term .range false false)

def sum : Parser Term := g.run .sum

def child (kind : Child) : Parser (Option Statement) := g.run (.child kind)

def compared : Parser Term := g.run (.term .comparison false false)

/-- The condition of an `@supports` rule. -/
def condition : Parser Condition := g.run (.condition false)

/-- A part of the condition of an `@supports` rule. -/
def conditionPart : Parser Condition := g.run (.condition true)

/-- A condition of a medium in parentheses. -/
def feature : Parser (List Piece) := g.run .feature

/-- A block, and its span. -/
def block (kind : Child) : Parser (List Statement × Span) := Parser.block (g.child kind)

end Grammar

end ComponentBundle.Style
