import ComponentBundle.Style.Color
import ComponentBundle.Style.Source

/-!
# Syntax of nested styles

What is written between the parts of a style may hold expressions, so texts are lists of pieces.
-/
namespace ComponentBundle.Style

/-- What stands between the items of a list. -/
inductive Separator where
  | space
  | comma
  | slash
  /-- A list of less than two items, whose separator is not decided. -/
  | undecided
  deriving DecidableEq

/-- Whether two separators mean the same. One that is not decided is a space. -/
def Separator.isSame (first second : Separator) : Bool :=
  let decided : Separator → Separator := fun s => if s = .undecided then .space else s
  decided first = decided second

/-- An operator between two values. -/
inductive Operator where
  | singleEqual
  | or
  | and
  | equal
  | notEqual
  | greater
  | greaterOrEqual
  | less
  | lessOrEqual
  | plus
  | minus
  | times
  | over
  | modulo
  deriving DecidableEq

namespace Operator

def text : Operator → String
  | .singleEqual => "="
  | .or => "or"
  | .and => "and"
  | .equal => "=="
  | .notEqual => "!="
  | .greater => ">"
  | .greaterOrEqual => ">="
  | .less => "<"
  | .lessOrEqual => "<="
  | .plus => "+"
  | .minus => "-"
  | .times => "*"
  | .over => "/"
  | .modulo => "%"

def strength : Operator → Nat
  | .singleEqual => 0
  | .or => 1
  | .and => 2
  | .equal | .notEqual => 3
  | .greater | .greaterOrEqual | .less | .lessOrEqual => 4
  | .plus | .minus => 5
  | .times | .over | .modulo => 6

end Operator

/-- An operator in front of a value. -/
inductive Sign where
  | plus
  | minus
  | over
  | not
  deriving DecidableEq

/-- A name, perhaps of a module that holds it. -/
structure Reference where
  space : Option String
  name : String
  spaceSpan : Option Span := none

mutual

/-- An expression and where it stands. -/
inductive Term where
  | mk (span : Span) (node : TermNode)

inductive TermNode where
  | null
  | bool (value : Bool)
  | number (value : Measure)
  | color (value : Color)
  | string (pieces : List Piece) (isQuoted : Bool)
  | name (reference : Reference)
  | list (items : List Term) (separator : Separator) (hasBrackets : Bool)
  | map (pairs : List (Term × Term))
  /-- A quotient of two numbers may be meant as it is written. -/
  | binary (operator : Operator) (left right : Term) (keepsSlash : Bool)
  | unary (sign : Sign) (value : Term)
  | paren (value : Term)
  | call (reference : Reference) (arguments : Arguments)
  | plainCall (name : List Piece) (arguments : Arguments)
  | choice (arguments : Arguments)
  | parent
  | calculation (name : String) (arguments : List Term)

inductive Piece where
  | text (value : String)
  | term (value : Term)

/-- Arguments of a call: by place, by name, and lists of them. -/
inductive Arguments where
  | mk (span : Span) (positional : List Term) (named : List (String × Term))
      (rest keywords : Option Term)

end

def Term.node : Term → TermNode
  | .mk _ node => node

def Term.span : Term → Span
  | .mk span _ => span

def Arguments.span : Arguments → Span
  | .mk span .. => span

structure Parameter where
  name : String
  default : Option Term

structure Parameters where
  items : List Parameter := []
  rest : Option String := none

structure Setting where
  name : String
  value : Term
  isDefault : Bool
  span : Span

/-- What a file passes on of a module: all names or those chosen, with a text in front of them. The
names of variables begin with a dollar sign. -/
structure Selection where
  opening : String := ""
  shown : Option (List String) := none
  hidden : Option (List String) := none

/-- The condition of an `@supports` rule. -/
inductive Condition where
  | both (operator : String) (left right : Condition)
  | negation (value : Condition)
  | piece (value : Term)
  | declaration (name value : Term)
  | function (name argument : List Piece)
  | anything (pieces : List Piece)

/-- What stands behind the address of an import. -/
inductive ImportModifier where
  | text (pieces : List Piece)
  | supports (condition : Condition)

/-- What an import names: a file that is searched, or a text that is written as it is. -/
inductive ImportItem where
  | file (name : Text) (span : Span)
  | plain (url : List Piece) (modifiers : List ImportModifier)

mutual

inductive Statement where
  | mk (span : Span) (node : StatementNode)

inductive StatementNode where
  | assign (name : Reference) (value : Term) (isDefault isGlobal : Bool)
  | rule (selector : List Piece) (selectorSpan : Span) (body : List Statement)
  | property (name : List Piece) (value : Option Term) (body : List Statement) (isCustom : Bool)
  | comment (pieces : List Piece)
  | branches (branches : List (Term × List Statement)) (otherwise : Option (List Statement))
  | each (names : List String) (items : Term) (body : List Statement)
  | count (name : String) (first last : Term) (isExclusive : Bool) (body : List Statement)
  | repetition (test : Term) (body : List Statement)
  | mixin (name : String) (parameters : Parameters) (body : List Statement) (takesContent : Bool)
  | function (name : String) (parameters : Parameters) (body : List Statement)
  | useMixin (reference : Reference) (nameSpan : Span) (arguments : Arguments)
      (content : Option (Parameters × List Statement))
  | content (arguments : Arguments)
  | result (value : Term)
  | inherit (selector : List Piece) (selectorSpan : Span) (isOptional : Bool)
  | importing (items : List ImportItem)
  | useModule (url : Text) (space : Option String) (settings : List Setting)
  | forward (url : Text) (selection : Selection) (settings : List Setting)
  | media (query : List Piece) (querySpan : Span) (body : List Statement)
  | supports (condition : Condition) (body : List Statement)
  | atRule (name : List Piece) (value : Option (List Piece)) (body : Option (List Statement))
  | atRoot (query : Option (List Piece × Span)) (body : List Statement)
  | note (value : Term) (isWarning : Bool)
  | stop (value : Term)

end

def Statement.node : Statement → StatementNode
  | .mk _ node => node

def Statement.span : Statement → Span
  | .mk span _ => span

namespace Piece

/-- Puts texts that follow each other together. -/
def joined (pieces : List Piece) : List Piece :=
  pieces.foldr (fun piece rest => match piece, rest with
    | .text first, .text second :: rest => .text (first ++ second) :: rest
    | .text "", rest => rest
    | piece, rest => piece :: rest) []

/-- The text of pieces that hold no expression. -/
def plain? (pieces : List Piece) : Option String :=
  pieces.foldr (fun piece found => match piece, found with
    | .text value, some rest => some (value ++ rest)
    | _, _ => none) (some "")

/-- The text in front of the first expression. -/
def initial (pieces : List Piece) : String :=
  match joined pieces with
  | .text value :: _ => value
  | _ => ""

/-- The text behind the last expression. -/
def trailing (pieces : List Piece) : String :=
  match (joined pieces).getLast? with
  | some (.text value) => value
  | _ => ""

end Piece

end ComponentBundle.Style
