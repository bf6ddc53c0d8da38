import ComponentBundle.Script.Literal
import ComponentBundle.Script.Syntax
import ComponentBundle.Text.Blank

/-!
# Writers of scripts

Parts of a script are printed by functions that refer to each other through a writer, which knows how
far in the lines are and which comments there are.
-/
namespace ComponentBundle.Script

/-- How much the place of an expression binds. An expression that binds no more is put into
parentheses. -/
abbrev Level := Nat

namespace Level

def lowest : Level := 0
def comma : Level := 1
def yield : Level := 3
def assign : Level := 4
def conditional : Level := 5
def exponent : Level := 17
def unary : Level := 18
def update : Level := 19
def construct : Level := 20
def call : Level := 21

/-- How much an operator between two values binds. -/
def ofOperator (operator : String) : Level :=
  match operator with
  | "??" => 6
  | "||" => 7
  | "&&" => 8
  | "|" => 9
  | "^" => 10
  | "&" => 11
  | "==" | "!=" | "===" | "!==" => 12
  | "<<" | ">>" | ">>>" => 14
  | "+" | "-" => 15
  | "*" | "/" | "%" => 16
  | "**" => 17
  | _ => 13

end Level

/-- What an expression is the beginning of. -/
inductive Lead where
  | nothing
  | statement
  | arrow
  | default
  deriving DecidableEq

/-- Where an expression stands. -/
structure Place where
  level : Level
  lead : Lead
  /-- Whether a call would be taken for the arguments of `new`. -/
  forbidsCall : Bool
  forbidsIn : Bool

/-- The place of an expression that binds more than the level. -/
def Place.at (level : Level) : Place := ⟨level, .nothing, false, false⟩

def Place.first (place : Place) (level : Level) : Place :=
  ⟨level, place.lead, false, place.forbidsIn⟩

inductive Phrase where
  | expr (place : Place) (value : Expr)
  /-- A pattern, and whether its names are bound and not only assigned to. -/
  | pattern (binds : Bool) (value : Pattern)
  | statements (body : List Stmt)
  | statement (value : Stmt)

/-- Whether the comment has to stay with the script, as licences do. -/
def Comment.isLegal (comment : Comment) : Bool :=
  let text := comment.text.toList
  text[2]? == some '!' ||
    ["@license", "@preserve"].any fun word => Text.hasInfix word.toList text

def endsLine (text : String) : Bool := text.toList.getLast? == some '\n'

/-- Prints phrases. -/
structure Writer where
  allComments : List Comment
  depth : Nat
  run : (depth : Nat) → Phrase → String

namespace Writer

variable (w : Writer)

def inner : Writer := { w with depth := w.depth + 1 }

def indent : String := String.ofList (List.replicate w.depth '\t')

def expr (place : Place) (value : Expr) : String := w.run w.depth (.expr place value)

def value (value : Expr) : String := w.expr (.at .comma) value

def whole (value : Expr) : String := w.expr (.at .lowest) value

/-- A pattern that binds its names, or one that is assigned to. -/
def pattern (binds : Bool) (value : Pattern) : String := w.run w.depth (.pattern binds value)

def binding (value : Pattern) : String := w.pattern true value

def statements (body : List Stmt) : String := w.run w.depth (.statements body)

def statement (value : Stmt) : String := w.run w.depth (.statement value)

/-- Lines between braces, or empty braces. -/
def braces (lines : String) : String :=
  if lines.isEmpty then "\x7b\x7d" else "\x7b\n" ++ lines ++ w.indent ++ "\x7d"

def block (body : List Stmt) : String := w.braces (w.inner.statements body)

def itemLines (items : List String) : String :=
  "\n" ++ ",\n".intercalate (items.map (w.inner.indent ++ ·)) ++ "\n" ++ w.indent

/-- The comments in front of a token. There is no room for any in front of the first byte. -/
def found (token : Nat) : List Comment :=
  w.allComments.filter fun found => found.token = token ∧ 0 < token

def commentText (text : String) : String :=
  match Text.splitOnChar '\n' (text.toList.filter (· ≠ '\r')) with
  | [] => ""
  | first :: rest =>
    let indented (line : Text) : Text :=
      (if "/*".toList.isPrefixOf line then [] else w.indent.toList) ++ Text.trimStart line
    "\n".intercalate ((first :: rest.map indented).map fun line =>
      String.ofList (Literal.escapedTemplate line))

/-- Comments behind a beginning, up to the place of what follows them. -/
def comments (start : String) : List Comment → String
  | [] => ""
  | first :: rest =>
    let others := rest.map fun found =>
      (if found.afterNewline then "\n" ++ w.indent else if found.isLegal then "\n" else "") ++
        w.commentText found.text
    let ends := (rest.getLastD first).isLine || (rest.getLastD first).beforeNewline
    start ++ w.commentText first.text ++ String.join others ++ (if ends then "\n" else "")

/-- The comments in front of a token: with the beginning of their lines, and up to the place of the
token. -/
def commentsAt (token : Nat) : String := w.comments w.indent (w.found token)

def behind (comments text : String) : String :=
  if endsLine comments then comments ++ w.indent ++ text else comments ++ " " ++ text

/-- A text that begins at a token, on a line of its own with the comments in front of it. -/
def line (token : Nat) (text : String) : String :=
  let found := w.commentsAt token
  (if found.isEmpty then w.indent ++ text else w.behind found text) ++ "\n"

/-- A text that begins at a token, behind the head of a statement. -/
def bodyLine (token : Nat) (text : String) : String :=
  match w.found token with
  | [] => " " ++ text
  | first :: rest =>
    w.behind (w.comments (if first.afterNewline then "\n " else " ") (first :: rest)) text

end Writer

/-- Text in parentheses, if they are asked for. -/
def parenthesize (isWrapped : Bool) (text : String) : String :=
  if isWrapped then "(" ++ text ++ ")" else text

def listed (texts : List String) : String := ", ".intercalate texts

end ComponentBundle.Script
