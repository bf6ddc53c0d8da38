import ComponentBundle.Style.Syntax

/-!
# Values of expressions

What an expression may result in, and how it is written: in a style sheet, where some values cannot
stand, or for a reader.
-/
namespace ComponentBundle.Style

/-- A quotient as it was written. -/
structure Quotient where
  left : Measure
  right : Measure
  text : String

/-- A calculation that is left to the program that shows the page. -/
inductive Calculation where
  | number (value : Measure)
  | word (value : String)
  /-- A text that was an expression in a text, which may be a sum. -/
  | inserted (value : String)
  | operation (operator : Operator) (left right : Calculation)
  | call (name : String) (arguments : List Calculation)

inductive FunctionName where
  | plain (name : String)
  | library (module : Option String) (name : String)
  /-- A function of a style, by the number that it got when it was declared. -/
  | written (place : Nat) (name : String)
  deriving DecidableEq

def FunctionName.text : FunctionName → String
  | .plain name | .library _ name | .written _ name => name

/-- What an expression results in. -/
inductive Value where
  | null
  | bool (value : Bool)
  | number (value : Measure) (quotient : Option Quotient)
  | color (value : Color)
  | string (text : String) (isQuoted : Bool)
  | list (items : List Value) (separator : Separator) (hasBrackets : Bool)
  | map (pairs : List (Value × Value))
  /-- The arguments of a call that have no parameter of their own. They are numbered, since a call
  fails if the arguments by name among them are never looked at. -/
  | arguments (items : List Value) (keywords : List (String × Value)) (number : Nat)
  | function (name : FunctionName)
  | calculation (value : Calculation)

/-- Characters of a string between quotes. What would be read as something else has a backslash. -/
def quotedChars (quote : Char) : Text → Text
  | [] => []
  | c :: rest =>
    if c = quote || c = '\\' then '\\' :: c :: quotedChars quote rest
    else if c.toNat < 0x20 && c != '\t' then
      let joins (d : Char) : Bool :=
        d.isDigit || ('a' ≤ d && d ≤ 'f') || ('A' ≤ d && d ≤ 'F') || d = ' ' || d = '\t'
      let gap := if rest.head?.any joins then [' '] else []
      '\\' :: Nat.toDigits 16 c.toNat ++ gap ++ quotedChars quote rest
    else c :: quotedChars quote rest

/-- A string in quotes, which are double ones if they may be. -/
def quoted (text : String) : String :=
  let quote := if text.contains '"' && !text.contains '\'' then '\'' else '"'
  String.ofList (quote :: quotedChars quote text.toList ++ [quote])

/-- A string without quotes. Blanks behind the end of a line go. -/
def unquotedChars : Text → Text
  | [] => []
  | '\n' :: rest => ' ' :: unquotedTail rest
  | c :: rest => c :: unquotedChars rest
where
  unquotedTail : Text → Text
    | [] => []
    | ' ' :: rest => unquotedTail rest
    | '\n' :: rest => ' ' :: unquotedTail rest
    | c :: rest => c :: unquotedChars rest

def Separator.text : Separator → String
  | .space | .undecided => " "
  | .comma => ", "
  | .slash => " / "

def rightNeedsParens (outer inner : Operator) : Bool :=
  outer == .over || (outer != .plus && (inner == .plus || inner == .minus))

mutual

def Calculation.text : Calculation → String
  | .number value => value.text
  | .word value => value
  | .inserted value => value
  | .operation operator left right =>
    let leftParens := match left with
      | .inserted _ => true
      | .operation inner _ _ => inner.strength < operator.strength
      | _ => false
    let rightParens := match right with
      | .inserted _ => true
      | .operation inner _ _ => rightNeedsParens operator inner
      | _ => false
    (if leftParens then "(" ++ left.text ++ ")" else left.text) ++ " " ++ operator.text ++ " " ++
      (if rightParens then "(" ++ right.text ++ ")" else right.text)
  | .call name arguments => name ++ "(" ++ ", ".intercalate (Calculation.texts arguments) ++ ")"

def Calculation.texts : List Calculation → List String
  | [] => []
  | first :: rest => first.text :: Calculation.texts rest

end

namespace Value

def needsParens (outer : Separator) : Value → Bool
  | .list (_ :: _ :: _) inner false =>
    match outer with
    | .comma => inner == .comma
    | .slash => inner == .comma || inner == .slash
    | .space | .undecided => inner != .undecided
  | _ => false

def needsParensInMap : Value → Bool
  | .list _ .comma false => true
  | _ => false

mutual

/-- Whether nothing is written for a value. -/
def isBlank : Value → Bool
  | .null => true
  | .string text isQuoted => !isQuoted && text.isEmpty
  | .list [] _ true => false
  | .list items _ _ => areBlank items
  | .arguments items _ _ => areBlank items
  | _ => false

/-- Whether nothing is written for any of the values. -/
def areBlank : List Value → Bool
  | [] => true
  | first :: rest => first.isBlank && areBlank rest

end

def shownList (items : List (String × Bool)) (separator : Separator) (hasBrackets : Bool) :
    String :=
  let texts := items.map fun (text, parens) => if parens then "(" ++ text ++ ")" else text
  let mark := match separator with
    | .comma => ","
    | .slash => "/"
    | _ => ""
  match texts with
  | [] => if hasBrackets then "[]" else "()"
  | [only] =>
    if hasBrackets then "[" ++ only ++ mark ++ "]"
    else if mark.isEmpty then only else "(" ++ only ++ mark ++ ")"
  | _ =>
    let inner := separator.text.intercalate texts
    if hasBrackets then "[" ++ inner ++ "]" else inner

mutual

def shown : Value → String
  | .null => "null"
  | .bool value => if value then "true" else "false"
  | .number value quotient => match quotient with | some q => q.text | none => value.text
  | .color value => value.text
  | .string text isQuoted =>
    if isQuoted then quoted text else String.ofList (unquotedChars text.toList)
  | .list items separator hasBrackets =>
    shownList (shownItems separator items) separator hasBrackets
  | .arguments items _ _ => shownList (shownItems .comma items) .comma false
  | .map [] => "()"
  | .map pairs => "(" ++ ", ".intercalate (shownPairs pairs) ++ ")"
  | .function name => "get-function(" ++ quoted name.text ++ ")"
  | .calculation value => value.text

/-- Items as a reader sees them, and whether they need parentheses. -/
def shownItems (separator : Separator) : List Value → List (String × Bool)
  | [] => []
  | first :: rest => (first.shown, needsParens separator first) :: shownItems separator rest

def shownPairs : List (Value × Value) → List String
  | [] => []
  | (key, value) :: rest =>
    let wrapped (v : Value) (text : String) :=
      if needsParensInMap v then "(" ++ text ++ ")" else text
    (wrapped key key.shown ++ ": " ++ wrapped value value.shown) :: shownPairs rest

end

/-- Why a value cannot stand in a style sheet. -/
def notWritable (value : Value) : String := value.shown ++ " isn't a valid CSS value."

mutual

/-- A value as it is written in a style sheet, or why it cannot be. Strings may lose their quotes. -/
def written (hasQuotes : Bool) : Value → Except String String
  | .null => .ok ""
  | .string text isQuoted =>
    .ok (if isQuoted && hasQuotes then quoted text else String.ofList (unquotedChars text.toList))
  | .list items separator hasBrackets => do
    if items.isEmpty && !hasBrackets then throw "() isn't a valid CSS value."
    let inner := separator.text.intercalate (← writtenItems hasQuotes items)
    return if hasBrackets then "[" ++ inner ++ "]" else inner
  | .arguments items _ _ => do
    if items.isEmpty then throw "() isn't a valid CSS value."
    return Separator.comma.text.intercalate (← writtenItems hasQuotes items)
  | .map pairs => .error (notWritable (.map pairs))
  | .function name => .error (notWritable (.function name))
  | .number value quotient =>
    if quotient.isNone && !value.isSimple then .error (notWritable (.number value none))
    else .ok (shown (.number value quotient))
  | value => .ok value.shown

/-- Items as they are written, without those for which nothing is. -/
def writtenItems (hasQuotes : Bool) : List Value → Except String (List String)
  | [] => .ok []
  | first :: rest => do
    if first.isBlank then writtenItems hasQuotes rest
    else return (← first.written hasQuotes) :: (← writtenItems hasQuotes rest)

end

/-- A value as it is written in a style sheet, or why it cannot be. -/
def css (value : Value) : Except String String := value.written true

/-- A value in the text of a string, which takes the characters of other strings as they are. -/
def inserted : Value → Except String String
  | .string text _ => .ok text
  | value => value.written false

/-- Whether a condition that results in the value holds. -/
def isTruthy : Value → Bool
  | .null => false
  | .bool value => value
  | _ => true

def ofFloat (x : Float) : Value := .number ⟨x, [], []⟩ none

def ofInt (n : Int) : Value := ofFloat (if n < 0 then -Float.ofNat n.natAbs else Float.ofNat n.natAbs)

def ofMeasure (m : Measure) : Value := .number m none

def plain (text : String) : Value := .string text false

/-- A value as one that is no quotient any more. -/
def withoutQuotient : Value → Value
  | .number value _ => .number value none
  | value => value

def items : Value → List Value
  | .list items _ _ => items
  | .arguments items _ _ => items
  | .map pairs => pairs.map fun (key, value) => .list [key, value] .space false
  | value => [value]

def separator : Value → Separator
  | .list _ separator _ => separator
  | .arguments .. | .map _ => .comma
  | _ => .space

def hasBrackets : Value → Bool
  | .list _ _ hasBrackets => hasBrackets
  | _ => false

def pairs? : Value → Option (List (Value × Value))
  | .map pairs => some pairs
  | .list [] _ _ | .arguments [] _ _ => some []
  | _ => none

def kind : Value → String
  | .null => "null"
  | .bool _ => "bool"
  | .number .. => "number"
  | .color _ => "color"
  | .string .. => "string"
  | .list .. => "list"
  | .map _ => "map"
  | .arguments .. => "arglist"
  | .function _ => "function"
  | .calculation _ => "calculation"

mutual

/-- How deep values are nested in a value. -/
def height : Value → Nat
  | .list items _ _ => itemsHeight items + 1
  | .map pairs => pairsHeight pairs + 1
  | .arguments items keywords _ => max (itemsHeight items) (keywordsHeight keywords) + 1
  | _ => 1

def itemsHeight : List Value → Nat
  | [] => 0
  | value :: rest => max value.height (itemsHeight rest)

def pairsHeight : List (Value × Value) → Nat
  | [] => 0
  | (key, value) :: rest => max (max key.height value.height) (pairsHeight rest)

def keywordsHeight : List (String × Value) → Nat
  | [] => 0
  | (_, value) :: rest => max value.height (keywordsHeight rest)

end

/-- Whether two values are equal; `n` bounds how deep they are nested. -/
def equalWithin : (n : Nat) → Value → Value → Bool
  | 0, _, _ => false
  | n + 1, first, second =>
    let all (xs ys : List Value) : Bool :=
      xs.length == ys.length && (xs.zip ys).all fun (x, y) => equalWithin n x y
    match first, second with
    | .null, .null => true
    | .bool x, .bool y => x == y
    | .number x _, .number y _ => x.isEqual y
    | .color x, .color y => x.isEqual y
    | .string x _, .string y _ => x == y
    | .function x, .function y => x == y
    | .calculation x, .calculation y => x.text == y.text
    | .map xs, .map ys =>
      xs.length == ys.length && xs.all fun (key, value) =>
        ys.any fun (key', value') => equalWithin n key key' && equalWithin n value value'
    | .list xs s b, .list ys s' b' => s.isSame s' && b == b' && all xs ys
    | .arguments xs _ _, .list ys .comma _ => all xs ys
    | .arguments xs named _, .arguments ys named' _ =>
      all xs ys && named.map (·.1) == named'.map (·.1) && all (named.map (·.2)) (named'.map (·.2))
    | _, _ => false

def isEqual (first second : Value) : Bool := equalWithin first.height first second

end Value

end ComponentBundle.Style
