import ComponentBundle.Script.Syntax

/-!
# Scopes

The names that statements declare and the names that they use without declaring them. All functions
here look at most `n` deep into a script.
-/
namespace ComponentBundle.Script

/-- A use of a name: whether it is assigned to. -/
structure Use where
  name : String
  isWrite : Bool
  deriving DecidableEq

/-- The uses of other names than the given ones. -/
def usesBeyond (declared : List String) (uses : List Use) : List Use :=
  uses.filter fun use => !declared.contains use.name

namespace Scope

def boundNames : (n : Nat) → Pattern → List String
  | 0, _ => []
  | _ + 1, .ident name => [name]
  | _ + 1, .target _ => []
  | n + 1, .object fields rest =>
    fields.flatMap (fun field => boundNames n field.pattern) ++ rest.toList.flatMap (boundNames n)
  | n + 1, .array items rest =>
    items.flatMap (fun item => item.toList.flatMap (boundNames n)) ++
      rest.toList.flatMap (boundNames n)
  | n + 1, .default found _ => boundNames n found

def variableNames (n : Nat) (items : List (Pattern × Option Expr)) : List String :=
  items.flatMap fun (found, _) => boundNames n found

def importNames (bindings : List ImportBinding) : List String :=
  bindings.map ImportBinding.name

def blockNames : (n : Nat) → Stmt → List String
  | 0, _ => []
  | n + 1, stmt =>
    match stmt.node with
    | .variable word items => if word == "var" then [] else variableNames n items
    | .functionDecl found => found.name.toList
    | .classDecl found => found.name.toList
    | .importDecl _ bindings _ _ => importNames (bindings.getD [])
    | .importEquals _ name _ _ => [name]
    | .exportDecl inner | .exportDefaultDecl inner => blockNames n inner
    | .enumDecl name _ | .namespaceDecl name _ => [name]
    | .erased _ values => values
    | _ => []

def functionNames : (n : Nat) → Stmt → List String
  | 0, _ => []
  | n + 1, stmt =>
    let inner := functionNames n
    match stmt.node with
    | .variable word items => if word == "var" then variableNames n items else []
    | .ifStmt _ yes no => inner yes ++ no.toList.flatMap inner
    | .forStmt first _ _ body => first.toList.flatMap inner ++ inner body
    | .forIn left _ body | .forOf _ left _ body => inner left ++ inner body
    | .whileStmt _ body | .doWhile body _ | .labeled _ body | .withStmt _ body => inner body
    | .tryStmt body handler finalizer =>
      body.flatMap inner ++ handler.toList.flatMap (fun (_, body) => body.flatMap inner) ++
        finalizer.toList.flatMap (·.flatMap inner)
    | .switchStmt _ cases => cases.flatMap fun (_, _, body) => body.flatMap inner
    | .block body => body.flatMap inner
    | .exportDecl declaration => inner declaration
    | _ => []

/-- The names that statements declare in a block that they make up. -/
def blockDeclares (n : Nat) (body : List Stmt) : List String := body.flatMap (blockNames n)

/-- The names that statements declare in a function that they make up. -/
def functionDeclares (n : Nat) (body : List Stmt) : List String :=
  body.flatMap (functionNames n) ++ blockDeclares n body

inductive Part where
  | expr (value : Expr)
  /-- A pattern, and whether it binds its names. -/
  | pattern (binds : Bool) (value : Pattern)
  | statements (body : List Stmt)

/-- Finds the uses of names in parts of a script. -/
abbrev Finder := Part → List Use

variable (find : Finder) (n : Nat)

/-- What a call of the constructor of an extended class is noted as among the uses of names. -/
def superCall : String := "super"

def keyUses : Key → List Use
  | .computed value => find (.expr value)
  | _ => []

def parameterNames (function : Function) : List String :=
  function.params.flatMap (boundNames n) ++ function.rest.toList.flatMap (boundNames n)

/-- The uses in a function of names that it does not declare. -/
def functionUses (function : Function) (isExpression : Bool) : List Use :=
  let own := if isExpression then function.name.toList else []
  let own := if function.isArrow then own else superCall :: own
  usesBeyond (own ++ parameterNames n function ++ functionDeclares n function.body) <|
    (function.params ++ function.rest.toList).flatMap (fun found => find (.pattern true found)) ++
      find (.statements function.body)

def classMemberUses : ClassMember → List Use
  | .method _ found _ _ name function _ =>
    found.flatMap (fun value => find (.expr value)) ++ keyUses find name ++
      functionUses find n function true
  | .field _ found _ _ name value =>
    found.flatMap (fun value => find (.expr value)) ++ keyUses find name ++
      value.toList.flatMap fun value => find (.expr value)
  | .block _ body => usesBeyond (functionDeclares n body) (find (.statements body))

/-- The uses in a class of names that it does not declare. -/
def classUses (found : Class) (isExpression : Bool) : List Use :=
  usesBeyond (if isExpression then found.name.toList else []) <|
    (found.decorators ++ found.base.toList).flatMap (fun value => find (.expr value)) ++
      found.members.flatMap (classMemberUses find n)

def memberUses : Member → List Use
  | .field name value => keyUses find name ++ find (.expr value)
  | .short name => [⟨name, false⟩]
  | .cover name value _ => ⟨name, false⟩ :: find (.expr value)
  | .method _ name function => keyUses find name ++ functionUses find n function true
  | .spread value => find (.expr value)

def elementUses : Element → List Use
  | .hole | .comments _ => []
  | .item value | .spread value => find (.expr value)

def exprUses : Expr → List Use
  | .ident name => [⟨name, false⟩]
  | .template _ values | .sequence values => values.flatMap fun value => find (.expr value)
  | .tagged tag _ values => find (.expr tag) ++ values.flatMap fun value => find (.expr value)
  | .array items => items.flatMap (elementUses find)
  | .object members => members.flatMap (memberUses find n)
  | .function found => functionUses find n found true
  | .classExpr found => classUses find n found true
  | .unary _ value | .await value _ | .member value _ _ | .hiddenMember value _ _ | .chain value
  | .paren value | .commented _ value => find (.expr value)
  | .update _ _ value =>
    let uses := find (.expr value)
    match value with
    | .ident name => ⟨name, true⟩ :: uses
    | .paren (.ident name) => ⟨name, true⟩ :: uses
    | _ => uses
  | .binary _ left right => find (.expr left) ++ find (.expr right)
  | .assign operator left value =>
    let reads := match left with
      | .ident name => if operator == "=" then [] else [⟨name, false⟩]
      | _ => []
    reads ++ find (.pattern false left) ++ find (.expr value)
  | .conditional test yes no => find (.expr test) ++ find (.expr yes) ++ find (.expr no)
  | .call .super items _ _ => ⟨superCall, false⟩ :: items.flatMap (elementUses find)
  | .call callee items _ _ | .new callee items _ =>
    find (.expr callee) ++ items.flatMap (elementUses find)
  | .index base name _ => find (.expr base) ++ find (.expr name)
  | .yield _ value => value.toList.flatMap fun value => find (.expr value)
  | .importCall items => items.flatMap (elementUses find)
  | _ => []

def patternUses (binds : Bool) : Pattern → List Use
  | .ident name => if binds then [] else [⟨name, true⟩]
  | .target value => find (.expr value)
  | .object fields rest =>
    fields.flatMap (fun field => keyUses find field.key ++ find (.pattern binds field.pattern)) ++
      rest.toList.flatMap fun found => find (.pattern binds found)
  | .array items rest =>
    (items.flatMap Option.toList ++ rest.toList).flatMap fun found => find (.pattern binds found)
  | .default found value => find (.pattern binds found) ++ find (.expr value)

/-- The uses in statements that make up a block. -/
def blockUses (body : List Stmt) : List Use :=
  usesBeyond (blockDeclares n body) (find (.statements body))

/-- The uses in a loop whose left side may declare names. -/
def loopUses (left : List Stmt) (values : List Expr) (body : Stmt) : List Use :=
  usesBeyond (blockDeclares n left) <|
    find (.statements left) ++ values.flatMap (fun value => find (.expr value)) ++
      find (.statements [body])

def nodeUses : Node → List Use
  | .expression value | .throwStmt value | .exportDefault value | .exportAssign value =>
    find (.expr value)
  | .variable _ items => items.flatMap fun (found, value) =>
    find (.pattern true found) ++ value.toList.flatMap fun value => find (.expr value)
  | .functionDecl found => functionUses find n found false
  | .classDecl found => classUses find n found false
  | .returnStmt value => value.toList.flatMap fun value => find (.expr value)
  | .ifStmt test yes no => find (.expr test) ++ find (.statements (yes :: no.toList))
  | .forStmt first test step body =>
    loopUses find n first.toList (test.toList ++ step.toList) body
  | .forIn left right body | .forOf _ left right body => loopUses find n [left] [right] body
  | .forTarget found => find (.pattern false found)
  | .whileStmt test body | .doWhile body test | .withStmt test body =>
    find (.expr test) ++ find (.statements [body])
  | .tryStmt body handler finalizer =>
    blockUses find n body ++
      handler.toList.flatMap (fun (found, body) =>
        usesBeyond (found.toList.flatMap (boundNames n)) <|
          found.toList.flatMap (fun found => find (.pattern true found)) ++ blockUses find n body) ++
      finalizer.toList.flatMap (blockUses find n)
  | .switchStmt value cases =>
    find (.expr value) ++ usesBeyond (cases.flatMap fun (_, _, body) => blockDeclares n body)
      (cases.flatMap fun (_, test, body) =>
        test.toList.flatMap (fun test => find (.expr test)) ++ find (.statements body))
  | .labeled _ body => find (.statements [body])
  | .block body => blockUses find n body
  | .exportDecl inner | .exportDefaultDecl inner => find (.statements [inner])
  | .exportNames isType names none _ =>
    if isType then [] else (names.filter fun name => !name.isType).map fun name =>
      ⟨name.inner.text, false⟩
  | .importEquals _ _ (first :: _) none => [⟨first, false⟩]
  | .enumDecl name members =>
    let own := members.filterMap fun
      | (.name text, _) | (.string text, _) => some text
      | _ => none
    usesBeyond (name :: own) <| members.flatMap fun (found, value) =>
      keyUses find found ++ value.toList.flatMap fun value => find (.expr value)
  | .namespaceDecl _ body => usesBeyond (functionDeclares n body) (find (.statements body))
  | _ => []

/-- The uses in a part of names that it does not declare. -/
def partUses : (n : Nat) → Part → List Use
  | 0, _ => []
  | n + 1, .expr value => exprUses (partUses n) n value
  | n + 1, .pattern binds value => patternUses (partUses n) binds value
  | n + 1, .statements body => body.flatMap fun stmt => nodeUses (partUses n) n stmt.node

end Scope

end ComponentBundle.Script
