import ComponentBundle.Script.Lowering.Statement
import ComponentBundle.Script.Parser.Program
import ComponentBundle.Script.Printer.Program

/-!
# Lowering whole scripts

Imports and exports of types go. So do imports whose names are not used as values, unless they are to
be kept. A script that has been a module stays one.
-/
namespace ComponentBundle.Script

namespace Lowering

/-- Lowers parts of a script that are nested at most `n` deep. -/
def lowering : (n : Nat) → (depth : Nat) → Surroundings → (part : Part) → Lower part.Result
  | 0, _, _, .expr value => return value
  | 0, _, _, .pattern value => return value
  | 0, _, _, .statements body => return body
  | n + 1, depth, around, part =>
    let l : Lowering := ⟨depth, around, lowering n depth⟩
    match part with
    | .expr value => exprRule l value
    | .pattern value => patternRule l value
    | .statements body => statementsRule l body

/-- What becomes of a statement at the top of a script. -/
inductive Kept where
  | plain (stmt : Stmt)
  | moduleItem (stmt : Stmt)
  /-- It is an import or export of which nothing is left. -/
  | gone
  /-- It is no import or export, and nothing is left of it. -/
  | goneQuietly

structure TopNames where
  /-- Whether imports of values are kept even if they are not used. -/
  preserve : Bool
  used : List String
  typeOnly : List String

def TopNames.keepsBinding (names : TopNames) (binding : ImportBinding) : Bool :=
  match binding with
  | .named _ _ true => false
  | found => names.preserve || names.used.contains found.name

def TopNames.keep (names : TopNames) (stmt : Stmt) : Kept :=
  let item (node : Node) : Kept := .moduleItem (.mk stmt.start stmt.stop node)
  match stmt.node with
  | .importDecl true _ _ _ | .exportNames true _ _ _ | .exportAll true _ _ _ => .gone
  | .importDecl false (some []) source attributes => item (.importDecl false none source attributes)
  | .importDecl false (some bindings) source attributes =>
    match bindings.filter names.keepsBinding with
    | [] => .gone
    | kept => item (.importDecl false (some kept) source attributes)
  | .exportNames false found source attributes =>
    let kept := found.filter fun name =>
      !name.isType && (source.isSome || !names.typeOnly.contains name.inner.text)
    if kept.isEmpty && !found.isEmpty then .gone
    else item (.exportNames false kept source attributes)
  | .exportDecl inner | .exportDefaultDecl inner =>
    match inner.node with
    | .erased .. | .importEquals true _ _ _ => .gone
    | _ => .moduleItem stmt
  | .exportDefault (.ident name) =>
    if names.typeOnly.contains name then .gone else .moduleItem stmt
  | .importEquals isType name _ _ =>
    if isType || (!names.preserve && !names.used.contains name) then .goneQuietly else .plain stmt
  | .importDecl .. | .exportDefault _ | .exportAll .. => .moduleItem stmt
  | _ => .plain stmt

/-- The names that a statement gives to types, or to values that exist elsewhere. -/
def erasedNames (stmt : Stmt) : List String :=
  let ofNode : Node → List String
    | .erased types values => types ++ values
    | _ => []
  match stmt.node with
  | .exportDecl inner => ofNode inner.node
  | .importDecl true bindings _ _ => Scope.importNames (bindings.getD [])
  | .importDecl false bindings _ _ => (bindings.getD []).filterMap fun
    | .named _ name true => some name.text
    | _ => none
  | node => ofNode node

def valueNames (n : Nat) (stmt : Stmt) : List String :=
  (Scope.blockNames n stmt ++ Scope.functionNames n stmt).filter fun name =>
    !(erasedNames stmt).contains name

def topNames (n : Nat) (preserve : Bool) (body : List Stmt) : TopNames :=
  let values := body.flatMap (valueNames n)
  {
    preserve
    used := (Scope.partUses n (.statements body)).map Use.name
    typeOnly := (body.flatMap erasedNames).filter fun name => !values.contains name }

def keptStatements : List Kept → List Stmt
  | [] => []
  | .plain stmt :: rest | .moduleItem stmt :: rest => stmt :: keptStatements rest
  | .gone :: rest | .goneQuietly :: rest => keptStatements rest

/-- Whether imports and exports have gone and none is left. -/
def losesModule (kept : List Kept) : Bool :=
  (kept.any fun | .gone => true | _ => false) && !kept.any fun | .moduleItem _ => true | _ => false

def isImport (stmt : Stmt) : Bool :=
  match stmt.node with
  | .importDecl .. => true
  | _ => false

def helperModule (helper : String) : String := "@oxc-project/runtime/helpers/" ++ helper

def helperImports (s : Progress) : List Stmt :=
  s.helpers.reverse.map fun (helper, name) =>
    Stmt.new (.importDecl false (some [.default name]) (helperModule helper) none)

def keyLists (s : Progress) : List Stmt :=
  let keys := s.keyLists.reverse.map fun (name, items) =>
    ((.ident name, some (.array items)) : Declarator)
  if keys.isEmpty then [] else [Stmt.new (.variable "const" keys)]

/-- The statements that a lowering puts in front of a script, behind its own imports. -/
def frontStatements (s : Progress) (declared : List Stmt) : List Stmt :=
  keyLists s ++ helperImports s ++ declared

/-- Whether the statement declares the variables of a lowering. -/
def isMade (stmt : Stmt) : Bool :=
  stmt.stop == 0 && match stmt.node with
  | .variable "var" items => items.all fun item => item.2.isNone
  | _ => false

/-- The places of names that are written as strings and that modules give to others. -/
def stringNames (stmt : Stmt) : List Nat :=
  let ofName (name : ModuleName) : List Nat := if name.isString then [name.start] else []
  match stmt.node with
  | .importDecl _ bindings _ _ => (bindings.getD []).flatMap fun
    | .named imported _ _ => ofName imported.val
    | _ => []
  | .exportNames _ names _ _ => names.flatMap fun name =>
    if name.inner.start = name.outer.start then ofName name.inner
    else ofName name.inner ++ ofName name.outer
  | .exportAll _ name _ _ => name.toList.flatMap ofName
  | _ => []

def firstFailure? : List Failure → Option Failure
  | [] => none
  | found :: rest =>
    match firstFailure? rest with
    | some other => if other.offset.getD 0 < found.offset.getD 0 then some other else some found
    | none => some found

/-- What is said about names that are written as strings. -/
def stringNameMessage : String := "Arbitrary module namespace identifier names are not available in " ++
  "the configured target environment."

def scopeDepth (found : Program) : Nat := 16 * (found.length + 16)

def keptItems (preserve : Bool) (found : Program) : List Kept :=
  found.body.map (topNames (scopeDepth found) preserve found.body).keep

/-- The statements that are left of a script, lowered, and what the lowering has made. -/
def loweredStatements (preserve : Bool) (found : Program) : List Stmt × Progress :=
  let n := scopeDepth found
  let around : Surroundings := {
    names := (Scope.functionDeclares n found.body).map fun name =>
      (name, (Scope.partUses n (.statements found.body)).any fun use => use.name == name && use.isWrite) }
  (lowering (4 * n) n around (.statements (keptStatements (keptItems preserve found)))).run
    { names := found.names, declared := found.declared }

/-- The variables that a lowering declares in front of a script, and the statements behind them. -/
def splitMade : List Stmt → List Stmt × List Stmt
  | first :: rest => if isMade first then ([first], rest) else ([], first :: rest)
  | [] => ([], [])

/-- The lowered statements in their order, with what the lowering has made among them. -/
def arranged (kept : List Kept) (s : Progress) (body : List Stmt) : List Stmt :=
  let (declared, body) := splitMade body
  let (imports, others) := body.span isImport
  let last := if losesModule kept && s.helpers.isEmpty
    then [Stmt.new (.exportNames false [] none none)] else []
  heldDeclaration true false s.held ++ imports ++ frontStatements s declared ++ others ++ last

def program (preserve : Bool) (found : Program) : Except Failure Program :=
  let (body, s) := loweredStatements preserve found
  let refused := (found.body.flatMap stringNames).map fun place =>
    (⟨stringNameMessage.toList, some place⟩ : Failure)
  match firstFailure? (refused ++ s.failures) with
  | some failure => .error failure
  | none => .ok { found with body := arranged (keptItems preserve found) s body }

end Lowering

end ComponentBundle.Script
