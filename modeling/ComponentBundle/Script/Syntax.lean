import ComponentBundle.Number.Binary
import ComponentBundle.Script.Identifier

/-!
# Syntax of scripts

Syntax trees of scripts, without the types that a typed script may hold: these are checked while they
are read and leave no trace. What a declaration of types alone declares is kept by name, since names
without a value cannot be exported.
-/
namespace ComponentBundle.Script

/-- The key of a member. -/
inductive KeyOf (E : Type) where
  | name (text : String)
  | string (text : String)
  | number (value : Decimal)
  | computed (value : E)
  | hidden (text : String)

/-- An item of an array or of arguments. -/
inductive ElementOf (E : Type) where
  | hole
  | item (value : E)
  | spread (value : E)
  /-- No item, but the comments in front of a token, which is given by its first byte. -/
  | comments (token : Nat)

/-- A function of any kind. -/
structure FunctionOf (P S : Type) where
  name : Option String := none
  isAsync : Bool := false
  isGenerator : Bool := false
  isArrow : Bool := false
  /-- Whether its body is one expression, which it returns. -/
  isShort : Bool := false
  params : List P := []
  rest : Option P := none
  directives : List String := []
  body : List S := []
  /-- The byte of the brace that ends the body, if there is one. -/
  close : Nat := 0
  hasBody : Bool := true
  /-- Whether a comment says that calls of it have no effect. -/
  isQuiet : Bool := false

inductive MethodKind where
  | method
  | get
  | set
  | constructor
  deriving DecidableEq

/-- A member of an object. -/
inductive MemberOf (E P S : Type) where
  | field (key : KeyOf E) (value : E)
  | short (name : String)
  /-- A name with a default, which only a target may hold. -/
  | cover (name : String) (value : E) (offset : Nat)
  | method (kind : MethodKind) (key : KeyOf E) (function : FunctionOf P S)
  | spread (value : E)

/-- A member of a class and where it begins. -/
inductive ClassMemberOf (E P S : Type) where
  | method (start : Nat) (decorators : List E) (isStatic : Bool) (kind : MethodKind) (key : KeyOf E)
      (function : FunctionOf P S) (assigned : List String)
  | field (start : Nat) (decorators : List E) (isStatic isAccessor : Bool) (key : KeyOf E)
      (value : Option E)
  | block (start : Nat) (body : List S)

structure ClassOf (E P S : Type) where
  decorators : List E := []
  name : Option String := none
  base : Option E := none
  members : List (ClassMemberOf E P S) := []

/-- A field of an object pattern. -/
structure FieldOf (E P : Type) where
  key : KeyOf E
  /-- Whether the key is not written because it is the name of the pattern. -/
  isShort : Bool
  pattern : P

/-- A name as a module gives it to others, possibly any text. -/
structure ModuleName where
  text : String
  isString : Bool := false
  start : Nat := 0

/-- Whether two names are written in the same way. -/
def ModuleName.isSame (first second : ModuleName) : Bool :=
  first.text == second.text && first.isString == second.isString

/-- A name that is a word, or a string. -/
abbrev WrittenName := { name : ModuleName // name.isString = false → IsPlain name.text }

/-- The word that the name is. A string is none. -/
def WrittenName.word (name : WrittenName) : Identifier :=
  match h : name.val.isString with
  | false => ⟨name.val.text, name.property h⟩
  | true => ⟨"", nofun⟩

inductive ImportBinding where
  | whole (name : Identifier)
  | default (name : Identifier)
  | named (imported : WrittenName) (name : Identifier) (isType : Bool)

def ImportBinding.name : ImportBinding → String
  | .whole name | .default name | .named _ name _ => name.text

structure ExportName where
  inner : ModuleName
  outer : ModuleName
  isType : Bool

/-- The attributes of an import: the word before them and their keys and values. -/
structure ImportAttributes where
  word : String
  entries : List (ModuleName × String)

mutual

inductive Expr where
  | ident (name : String)
  | this
  | super
  | null
  | bool (value : Bool)
  | number (value : Decimal)
  | bigint (text : String) (offset : Nat)
  | string (text : String)
  | regex (pattern flags : String)
  | template (parts : List String) (values : List Expr)
  | tagged (tag : Expr) (parts : List String) (values : List Expr)
  | array (items : List (ElementOf Expr))
  | object (members : List (MemberOf Expr Pattern Stmt))
  | function (value : FunctionOf Pattern Stmt)
  | classExpr (value : ClassOf Expr Pattern Stmt)
  | unary (operator : String) (value : Expr)
  | update (operator : String) (before : Bool) (target : Expr)
  | binary (operator : String) (left right : Expr)
  | assign (operator : String) (target : Pattern) (value : Expr)
  | conditional (test yes no : Expr)
  | call (callee : Expr) (arguments : List (ElementOf Expr)) (isOptional isPure : Bool)
  | new (callee : Expr) (arguments : List (ElementOf Expr)) (isPure : Bool)
  | member (object : Expr) (name : String) (isOptional : Bool)
  | hiddenMember (object : Expr) (name : String) (isOptional : Bool)
  | index (object key : Expr) (isOptional : Bool)
  | chain (value : Expr)
  | sequence (values : List Expr)
  | yield (isAll : Bool) (value : Option Expr)
  | await (value : Expr) (offset : Nat)
  | importCall (arguments : List (ElementOf Expr))
  | metaProperty (text : String)
  | hiddenName (name : String)
  | paren (value : Expr)
  /-- A value with comments in front of its first token, which is given by its first byte. -/
  | commented (token : Nat) (value : Expr)

/-- What is assigned to or bound. -/
inductive Pattern where
  | ident (name : String)
  | target (value : Expr)
  | object (fields : List (FieldOf Expr Pattern)) (rest : Option Pattern)
  | array (items : List (Option Pattern)) (rest : Option Pattern)
  | default (pattern : Pattern) (value : Expr)

/-- A statement and the bytes that it takes. -/
inductive Stmt where
  | mk (start stop : Nat) (node : Node)

inductive Node where
  | expression (value : Expr)
  | variable (word : String) (declarations : List (Pattern × Option Expr))
  | functionDecl (value : FunctionOf Pattern Stmt)
  | classDecl (value : ClassOf Expr Pattern Stmt)
  | returnStmt (value : Option Expr)
  | ifStmt (test : Expr) (yes : Stmt) (no : Option Stmt)
  | forStmt (first : Option Stmt) (test step : Option Expr) (body : Stmt)
  | forIn (left : Stmt) (right : Expr) (body : Stmt)
  | forOf (isAwait : Bool) (left : Stmt) (right : Expr) (body : Stmt)
  | forTarget (target : Pattern)
  | whileStmt (test : Expr) (body : Stmt)
  | doWhile (body : Stmt) (test : Expr)
  | breakStmt (label : Option String)
  | continueStmt (label : Option String)
  | throwStmt (value : Expr)
  | tryStmt (body : List Stmt) (handler : Option (Option Pattern × List Stmt))
      (finalizer : Option (List Stmt))
  | switchStmt (value : Expr) (cases : List (Nat × Option Expr × List Stmt))
  | labeled (label : String) (body : Stmt)
  | block (body : List Stmt)
  | empty
  | debugger
  | withStmt (value : Expr) (body : Stmt)
  | importDecl (isType : Bool) (bindings : Option (List ImportBinding)) (source : String)
      (attributes : Option ImportAttributes)
  | importEquals (isType : Bool) (name : String) (path : List String) (source : Option String)
  | exportNames (isType : Bool) (names : List ExportName) (source : Option String)
      (attributes : Option ImportAttributes)
  | exportDecl (declaration : Stmt)
  | exportDefault (value : Expr)
  | exportDefaultDecl (declaration : Stmt)
  | exportAll (isType : Bool) (name : Option ModuleName) (source : String)
      (attributes : Option ImportAttributes)
  | exportAssign (value : Expr)
  | enumDecl (name : String) (members : List (KeyOf Expr × Option Expr))
  | namespaceDecl (name : String) (body : List Stmt)
  /-- A declaration of the names of types, or of values that exist elsewhere. -/
  | erased (types values : List String)

end

/-- The key of a member. -/
abbrev Key := KeyOf Expr

/-- An item of an array or of arguments. -/
abbrev Element := ElementOf Expr

/-- A function of any kind. -/
abbrev Function := FunctionOf Pattern Stmt

abbrev Member := MemberOf Expr Pattern Stmt

abbrev ClassMember := ClassMemberOf Expr Pattern Stmt

abbrev Class := ClassOf Expr Pattern Stmt

/-- A field of an object pattern. -/
abbrev Field := FieldOf Expr Pattern

instance : Inhabited Expr := ⟨.this⟩

instance : Inhabited Pattern := ⟨.ident ""⟩

instance : Inhabited Stmt := ⟨.mk 0 0 .empty⟩

def Stmt.node : Stmt → Node
  | .mk _ _ node => node

/-- The byte that the statement begins at. -/
def Stmt.start : Stmt → Nat
  | .mk start _ _ => start

def Stmt.stop : Stmt → Nat
  | .mk _ stop _ => stop

/-- A comment in front of a token. -/
structure Comment where
  text : String
  isLine : Bool
  afterNewline : Bool
  beforeNewline : Bool
  token : Nat
  deriving DecidableEq

structure Program where
  hashbang : Option String := none
  directives : List (Nat × Nat × String) := []
  body : List Stmt := []
  comments : List Comment := []
  names : List String := []
  declared : List (Nat × Nat) := []
  length : Nat := 0

end ComponentBundle.Script
