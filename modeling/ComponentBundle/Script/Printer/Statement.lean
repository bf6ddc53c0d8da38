import ComponentBundle.Script.Printer.Expression

/-!
# Printing statements
-/
namespace ComponentBundle.Script.Printer

variable (w : Writer)

/-- A statement behind the head of another one. -/
def bodyOf (stmt : Stmt) : String :=
  match stmt.node with
  | .empty => ";"
  | .block _ => " " ++ w.statement stmt
  | _ => w.bodyLine stmt.start (w.statement stmt)

def isBlock (stmt : Stmt) : Bool :=
  match stmt.node with
  | .block _ => true
  | _ => false

def declarators (word : String) (items : List (Pattern × Option Expr)) (forbidsIn : Bool) : String :=
  word ++ " " ++ listed (items.map fun (found, value) =>
    w.binding found ++
      ((value.map fun value => " = " ++ w.expr { Place.at .comma with forbidsIn } value).getD ""))

/-- The part of a loop in front of its first semicolon or of its word. -/
def loopHead (stmt : Stmt) : String :=
  match stmt.node with
  | .variable word items => declarators w word items true
  | .expression value => w.expr { Place.at .lowest with forbidsIn := true } value
  | .forTarget found => w.pattern false found
  | _ => ""

def moduleName (name : ModuleName) : String :=
  if name.isString then Literal.string name.text else name.text

def nameList (names : List String) : String :=
  if names.isEmpty then "\x7b\x7d" else "\x7b " ++ listed names ++ " \x7d"

def importBindings (bindings : List ImportBinding) : String :=
  let named := bindings.filterMap fun
    | .named imported name _ =>
      some (if imported.val.text == name.text && !imported.val.isString then name.text
        else moduleName imported.val ++ " as " ++ name.text)
    | _ => none
  let others := bindings.filterMap fun
    | .whole name => some ("* as " ++ name.text)
    | .default name => some name.text
    | .named .. => none
  let hasNamed := bindings.isEmpty || !named.isEmpty
  listed (others ++ if hasNamed then [nameList named] else [])

def attributes (found : Option ImportAttributes) : String :=
  match found with
  | none => ""
  | some found => " " ++ found.word ++ " " ++ nameList (found.entries.map fun (name, value) =>
      moduleName name ++ ": " ++ Literal.string value)

def exportNames (names : List ExportName) : String :=
  nameList (names.map fun name =>
    if name.inner.isSame name.outer then moduleName name.inner
    else moduleName name.inner ++ " as " ++ moduleName name.outer)

def sourceOf (source : Option String) : String :=
  (source.map fun source => " from " ++ Literal.string source).getD ""

def choice (test : Expr) (yes : Stmt) (no : Option Stmt) : String :=
  let head := "if (" ++ w.whole test ++ ")" ++ bodyOf w yes
  match no with
  | none => head
  | some no =>
    let behind := match no.node with
      | .ifStmt .. => " " ++ w.statement no
      | _ => bodyOf w no
    head ++ (if isBlock yes then " " else "\n" ++ w.indent) ++ "else" ++ behind

def attemptText (body : List Stmt) (handler : Option (Option Pattern × List Stmt))
    (finalizer : Option (List Stmt)) : String :=
  "try " ++ w.block body ++
    ((handler.map fun (found, body) =>
      " catch " ++ ((found.map fun found => "(" ++ w.binding found ++ ") ").getD "") ++
        w.block body).getD "") ++
    ((finalizer.map fun body => " finally " ++ w.block body).getD "")

/-- A part of a choice between values. One statement stands behind it, more on lines of their own. -/
def caseText (test : Option Expr) (body : List Stmt) : String :=
  let head := match test with
    | some test => w.indent ++ "case " ++ w.whole test ++ ":"
    | none => w.indent ++ "default:"
  match body with
  | [only] => head ++ bodyOf w only ++ "\n"
  | body => head ++ "\n" ++ w.inner.statements body

/-- A loop whose body stands in front of its condition. -/
def doWhile (body : Stmt) (test : Expr) : String :=
  let loop := if isBlock body then " " ++ w.statement body ++ " "
    else "\n" ++ w.inner.line body.start (w.inner.statement body) ++ w.indent
  "do" ++ loop ++ "while (" ++ w.whole test ++ ");"

/-- A declaration behind the words that export it. The mark of a function stands in front of
them. -/
def exported (words : String) (declaration : Stmt) : String :=
  match declaration.node with
  | .functionDecl found =>
    (if found.isQuiet then quietMark ++ "\n" ++ w.indent else "") ++ words ++ function w found
  | _ => words ++ w.statement declaration

/-- A statement without the beginning and the end of its line. -/
def node : Node → String
  | .expression value => w.expr { Place.at .lowest with lead := .statement } value ++ ";"
  | .variable word items => declarators w word items false ++ ";"
  | .functionDecl found =>
    (if found.isQuiet then quietMark ++ "\n" ++ w.indent else "") ++ function w found
  | .classDecl found => classText w found
  | .returnStmt none => "return;"
  | .returnStmt (some value) => "return " ++ w.whole value ++ ";"
  | .ifStmt test yes no => choice w test yes no
  | .forStmt first test step body =>
    "for (" ++ (first.map (loopHead w)).getD "" ++ ";" ++
      ((test.map fun test => " " ++ w.whole test).getD "") ++ ";" ++
      ((step.map fun step => " " ++ w.whole step).getD "") ++ ")" ++ bodyOf w body
  | .forIn left right body =>
    "for (" ++ loopHead w left ++ " in " ++ w.whole right ++ ")" ++ bodyOf w body
  | .forOf isAwait left right body =>
    "for " ++ (if isAwait then "await " else "") ++ "(" ++ loopHead w left ++ " of " ++
      w.value right ++ ")" ++ bodyOf w body
  | .forTarget found => w.pattern false found
  | .whileStmt test body => "while (" ++ w.whole test ++ ")" ++ bodyOf w body
  | .doWhile body test => doWhile w body test
  | .breakStmt label => "break" ++ ((label.map (" " ++ ·)).getD "") ++ ";"
  | .continueStmt label => "continue" ++ ((label.map (" " ++ ·)).getD "") ++ ";"
  | .throwStmt value => "throw " ++ w.whole value ++ ";"
  | .tryStmt body handler finalizer => attemptText w body handler finalizer
  | .switchStmt value cases =>
    "switch (" ++ w.whole value ++ ") " ++
      w.braces (String.join (cases.map fun (_, test, body) => caseText w.inner test body))
  | .labeled label body => label ++ ":" ++ bodyOf w body
  | .block body => w.block body
  | .empty => ";"
  | .debugger => "debugger;"
  | .withStmt value body => "with (" ++ w.whole value ++ ")" ++ bodyOf w body
  | .importDecl _ bindings source found =>
    "import " ++ ((bindings.map fun bindings => importBindings bindings ++ " from ").getD "") ++
      Literal.string source ++ attributes found ++ ";"
  | .importEquals _ name path source =>
    "import " ++ name ++ " = " ++ ((source.map Literal.string).getD (".".intercalate path)) ++ ";"
  | .exportNames _ names source found =>
    "export " ++ exportNames names ++ sourceOf source ++ attributes found ++ ";"
  | .exportDecl declaration => exported w "export " declaration
  | .exportDefault value =>
    "export default " ++ w.expr { Place.at .comma with lead := .default } value ++ ";"
  | .exportDefaultDecl declaration => exported w "export default " declaration
  | .exportAll _ name source found =>
    "export *" ++ ((name.map fun name => " as " ++ moduleName name).getD "") ++
      sourceOf (some source) ++ attributes found ++ ";"
  | .exportAssign value => "export = " ++ w.whole value ++ ";"
  | .enumDecl .. | .namespaceDecl .. | .erased .. => ""

/-- A statement on its lines, with the comments in front of it. -/
def line (stmt : Stmt) : String := w.line stmt.start (w.statement stmt)

end ComponentBundle.Script.Printer
