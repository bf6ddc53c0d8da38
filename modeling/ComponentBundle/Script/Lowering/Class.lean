import ComponentBundle.Script.Lowering.Function

/-!
# Lowering classes

The fields of a class are set up in its constructor, and the fields of the class itself behind it.
Hidden members become maps from objects to their values, and functions.
-/
namespace ComponentBundle.Script.Lowering

variable (l : Lowering)

def helperCall (name : String) (arguments : List Expr) : Lower Expr := do
  return .callOf (.ident (← Lower.helper name)) arguments

def fieldKey : Key → Expr
  | .name text | .string text | .hidden text => .string text
  | .number value => .number value
  | .computed value => value

/-- A class as an expression. A class that is a value is always read from its variable. -/
def ownerExpr (owner : Owner) : Lower Expr := do
  if owner.isValue then return .ident (← Lower.classHolder owner) else return .ident owner.name

def isOwner (owner : Owner) : Expr → Bool
  | .ident name =>
    match l.meaning? name with
    | some (.class found _) => found.id == owner.id
    | _ => false
  | .this => l.around.thisClass.any fun found => found.id == owner.id
  | _ => false

def isBranded (brand : Brand) (value : Expr) : Bool :=
  match brand with
  | .set _ => false
  | .class owner => isOwner l owner value

/-- A value that is given if an object has the hidden members of a brand. -/
def assertBrand (brand : Brand) (arguments : List Expr) : Lower Expr := do
  let mark ← match brand with
    | .set name => pure (Expr.ident name)
    | .class owner => ownerExpr owner
  helperCall "assertClassBrand" (mark :: arguments)

def checkBrand (brand : Brand) (base : Expr) : Lower Expr :=
  if isBranded l brand base then return base else assertBrand brand [base]

/-- What an access fails with that a hidden member does not allow. -/
def accessError (helper name : String) : Lower Expr := helperCall helper [.string ("#" ++ name)]

def readHidden (hidden : Hidden) (name : String) (base : Expr) : Lower Expr := do
  match hidden with
  | .field map => helperCall "classPrivateFieldGet2" [.ident map, base]
  | .shared owner holder =>
    if isOwner l owner base then return .member (.ident holder) "_" false
    else return .member (← assertBrand (.class owner) [base, .ident holder]) "_" false
  | .method brand function =>
    if isBranded l brand base then return .ident function
    else assertBrand brand [base, .ident function]
  | .accessor brand (some getter) _ =>
    return .callOf (.member (.ident getter) "call" false) [← checkBrand l brand base]
  | .accessor _ none _ => return .sequence [base, ← accessError "writeOnlyError" name]

def writeHidden (hidden : Hidden) (name : String) (base value : Expr) : Lower Expr := do
  match hidden with
  | .field map => helperCall "classPrivateFieldSet2" [.ident map, base, value]
  | .shared owner holder =>
    let value ← if isOwner l owner base then pure value
      else assertBrand (.class owner) [base, value]
    return .assign "=" (.target (.member (.ident holder) "_" false)) value
  | .accessor brand _ (some setter) =>
    return .callOf (.member (.ident setter) "call" false) [← checkBrand l brand base, value]
  | .accessor _ _ none | .method .. =>
    return .sequence [base, value, ← accessError "readOnlyError" name]

def placeHidden (hidden : Hidden) (name : String) (base : Expr) : Lower Expr := do
  match hidden with
  | .field map =>
    let write ← Lower.helper "classPrivateFieldSet2"
    let found ← helperCall "toSetter" [.ident write, .array [.item (.ident map), .item base]]
    return .member found "_" false
  | hidden => readHidden l hidden name base

def hidden? (name : String) : Option Hidden :=
  (l.around.hidden.find? fun found => found.1 == name).map Prod.snd

/-- What hidden members of some name have become, with one more of them. -/
def addHidden (text : String) (added : Hidden) (found : List (String × Hidden)) :
    List (String × Hidden) :=
  match found.find? fun item => item.1 == text, added with
  | some (_, .accessor brand getter setter), .accessor _ more other =>
    (text, .accessor brand (getter.or more) (setter.or other)) ::
      found.filter fun item => item.1 != text
  | _, _ => found ++ [(text, added)]

/-- What the hidden members of a class become, and the name of the set of its objects if one is
needed. -/
def hiddenMembers (owner : Owner) (members : List ClassMember) :
    Lower (List (String × Hidden) × Option String) := do
  let needsBrand := members.any fun
    | .method _ _ false _ (.hidden _) _ _ => true
    | _ => false
  let brand ← if needsBrand then some <$> Lower.fresh (owner.name ++ "_brand") else pure none
  let found ← members.foldlM (fun found member => do
    match member with
    | .field _ _ false _ (.hidden text) _ =>
      return addHidden text (.field (← Lower.fresh text)) found
    | .field _ _ true _ (.hidden text) _ =>
      return addHidden text (.shared owner (← Lower.fresh text)) found
    | .method _ _ isStatic kind (.hidden text) _ _ =>
      let mark : Brand := match brand, isStatic with
        | some name, false => .set name
        | _, _ => .class owner
      match kind with
      | .get =>
        return addHidden text (.accessor mark (some (← Lower.fresh ("get_" ++ text))) none) found
      | .set =>
        return addHidden text (.accessor mark none (some (← Lower.fresh ("set_" ++ text)))) found
      | _ => return addHidden text (.method mark (← Lower.fresh text)) found
    | _ => return found) []
  return (found, brand)

def hiddenFunction? (kind : MethodKind) : Hidden → Option String
  | .method _ name => some name
  | .accessor _ getter setter => if kind = .get then getter else setter
  | _ => none

def isSuperCall (stmt : Stmt) : Bool :=
  match stmt.node with
  | .expression (.call .super _ _ _) => true
  | _ => false

def callsSuper (body : List Stmt) : Bool :=
  (Scope.partUses l.depth (.statements body)).any fun use => use.name == Scope.superCall

def assignParameter (name : String) : Stmt :=
  .ofExpr (.assign "=" (.target (.member .this name false)) (.ident name))

/-- Lowers groups of statements in a row, each in surroundings of its own. The variables that they
need stand in front of all. -/
def groups (found : List (Lowering × List Stmt)) : Lower (List Stmt) := do
  let parts ← found.mapM fun (inner, body) => do
    match ← inner.statements body with
    | first :: rest =>
      match first.stop, first.node with
      | 0, .variable "var" items =>
        if items.all fun item => item.2.isNone then return (items, rest) else return ([], first :: rest)
      | _, _ => return ([], first :: rest)
    | [] => return ([], [])
  let items := parts.flatMap Prod.fst
  let front := if items.isEmpty then [] else [Stmt.new (.variable "var" items)]
  return front ++ parts.flatMap Prod.snd

/-- Puts a statement behind each call of the constructor that is a statement, at most `n` statements
deep. -/
def behindSuper (added : Stmt) : (n : Nat) → List Stmt → List Stmt
  | 0, body => body
  | n + 1, body => body.flatMap fun stmt =>
    let inner := behindSuper added n
    let one (stmt : Stmt) : Stmt := match inner [stmt] with
      | [only] => only
      | several => .new (.block several)
    match stmt with
    | .mk start stop (.block body) => [.mk start stop (.block (inner body))]
    | .mk start stop (.ifStmt test yes no) =>
      [.mk start stop (.ifStmt test (one yes) (no.map one))]
    | .mk start stop (.tryStmt body handler finalizer) =>
      [.mk start stop (.tryStmt (inner body) (handler.map fun (found, body) => (found, inner body))
        finalizer)]
    | stmt => if isSuperCall stmt then [stmt, added] else [stmt]

/-- The function that calls the constructor of the class that is extended and sets up the object. -/
def superMaker (name : String) (setup : List Stmt) : Lower Stmt := do
  let args ← Lower.fresh "args"
  let values := setup.filterMap fun stmt => match stmt.node with
    | .expression value => some value
    | _ => none
  let call : Expr := .call .super [.spread (.ident args)] false false
  return .declare "var" name (some (.function {
    isArrow := true, isShort := true, rest := some (.ident args)
    body := [.ofExpr (.sequence (call :: values ++ [.this]))] }))

/-- Lowers a constructor of a class, which sets up objects by statements that belong outside of it.
Names of the constructor give way to the ones that these statements use. -/
def constructorRule (isDerived : Bool) (setup : List Stmt) (assigned : List String)
    (found : Function) : Lower Function := do
  let free := (Scope.partUses l.depth (.statements setup)).map Use.name
  let own := Scope.parameterNames l.depth found ++ Scope.functionDeclares l.depth found.body
  let clashes := (own.eraseDups).filter free.contains
  let renamed ← clashes.mapM fun name => do return (name, Meaning.name (← Lower.fresh name))
  let inner := (inside l found true Surroundings.ownThis).within fun around =>
    { around with meanings := renamed ++ around.meanings }
  let outer := l.within fun around =>
    { around.ownThis with isTop := false, isOutermost := false, waiting := .plain }
  let parameterLines := assigned.map assignParameter
  let (result, held) ← withHeld do
    let (found, declared) ← parameters inner found
    let body := declared ++ found.body
    let (before, after) := body.span (!isSuperCall ·)
    let sets := !setup.isEmpty
    let body ←
      if !isDerived then groups [(inner, parameterLines), (outer, setup), (inner, body)]
      else
        match after, sets && callsSuper l before with
        | call :: after, false =>
          groups [(inner, before ++ call :: parameterLines), (outer, setup), (inner, after)]
        | _, _ =>
          if !sets then groups [(inner, parameterLines ++ body)]
          else
            let name ← Lower.fresh "super"
            let maker ← superMaker name setup
            groups [(outer, [maker]), (inner.within fun around =>
              { around with superName := some name }, parameterLines ++ body)]
    return { found with body }
  let isLate := isDerived && callsSuper l result.body
  let body := match isLate, held.thisName with
    | true, some name =>
      behindSuper (.ofExpr (.assign "=" (.ident name) .this)) l.depth result.body
    | _, _ => result.body
  return { result with body := heldDeclaration false isLate held ++ body }

/-- The members of a class with a constructor if objects have to be set up. -/
def withConstructor (isDerived : Bool) (setup : List Stmt) (members : List ClassMember) :
    Lower (List ClassMember) := do
  let hasConstructor := members.any fun
    | .method _ _ _ .constructor _ _ _ => true
    | _ => false
  if setup.isEmpty || hasConstructor then return members
  let function : Function ←
    if isDerived then do
      let name ← Lower.fresh "args"
      let call : Expr := .call .super [.spread (.ident name)] false false
      pure { rest := some (.ident name), body := [.ofExpr call] }
    else pure {}
  return .method 0 [] false .constructor (.name "constructor") function [] :: members

def key : Key → Lower Key
  | .computed value => return .computed (← l.expr value)
  | found => return found

inductive Later where
  | define (key value : Expr)
  /-- The value of a hidden field is put into a variable. -/
  | hold (name : String) (value : Expr)
  | run (value : Expr)

/-- What becomes of a class: what is declared in front of it, its members, the functions that hidden
methods become, and what is done with it afterwards. -/
structure ClassParts where
  before : List Stmt := []
  members : List ClassMember := []
  functions : List Stmt := []
  later : List Later := []

def onlyExpression? : List Stmt → Option Expr
  | [stmt] =>
    match stmt.node with
    | .expression value => some value
    | _ => none
  | _ => none

/-- The key of a field, which is read in front of the class if it is not plain. -/
def keptKey : Key → Lower (List Stmt × Expr)
  | .computed (.string text) => return ([], .string text)
  | .computed (.number value) => return ([], .number value)
  | .computed value => do
    let name ← Lower.fresh (Lower.nameOf value)
    return ([.declare "let" name (some value)], .ident name)
  | found => return ([], fieldKey found)

/-- What is declared in front of a class because of a field of its objects, and what sets the field
up. -/
def setupField (hidden : List (String × Hidden)) (key : Key) (value : Option Expr) :
    Lower (List Stmt × List Stmt) := do
  let value := value.getD .nothing
  match key with
  | .hidden text =>
    match (hidden.find? fun found => found.1 == text).map Prod.snd with
    | some (.field map) =>
      let made ← helperCall "classPrivateFieldInitSpec" [.this, .ident map, value]
      return ([.declare "var" map (some (.new (.ident "WeakMap") [] true))], [.ofExpr made])
    | _ => return ([], [])
  | key =>
    let (before, key) ← keptKey key
    let made ← helperCall "defineProperty" [.this, key, value]
    return (before, [.ofExpr made])

/-- Adds a member of a class, lowered in the class or, if it belongs to the class itself, in its
surroundings behind the class. -/
def addMember (shared : Lowering) (owner : Owner) (isDerived : Bool) (setup : List Stmt)
    (hidden : List (String × Hidden)) (parts : ClassParts) (member : ClassMember) :
    Lower ClassParts := do
  let hidden? (text : String) : Option Hidden :=
    (hidden.find? fun found => found.1 == text).map Prod.snd
  match member with
  | .field _ _ false false _ _ => return parts
  | .field _ _ true false (.hidden text) value =>
    match hidden? text with
    | some (.shared _ holder) =>
      let value ← shared.expr (value.getD .nothing)
      return { parts with later := parts.later ++ [.hold holder value] }
    | _ => return parts
  | .field _ _ true false key value =>
    let (before, key) ← keptKey key
    let value ← shared.expr (value.getD .nothing)
    return { parts with before := parts.before ++ before, later := parts.later ++ [.define key value] }
  | .field start found isStatic true name value =>
    let member : ClassMember := .field start (← found.mapM l.expr) isStatic true (← key l name)
      (← value.mapM l.expr)
    return { parts with members := parts.members ++ [member] }
  | .block _ body =>
    let made : Expr := match onlyExpression? body with
      | some value => value
      | none => .callOf (.paren (.function { isArrow := true, body })) []
    return { parts with later := parts.later ++ [.run (← shared.expr made)] }
  | .method _ _ isStatic kind (.hidden text) function _ =>
    match (hidden? text).bind (hiddenFunction? kind) with
    | some name =>
      let function ← method l (some ⟨owner, !isStatic⟩) function
      let stmt := Stmt.new (.functionDecl { function with name := some name })
      return { parts with functions := parts.functions ++ [stmt] }
    | none => return parts
  | .method start found isStatic kind name function assigned =>
    let found ← found.mapM l.expr
    let name ← key l name
    let function ←
      if kind = .constructor then constructorRule l isDerived setup assigned function
      else method l none function
    let member : ClassMember := .method start found isStatic kind name function []
    return { parts with members := parts.members ++ [member] }

def Later.toExpr (target : Expr) : Later → Lower Expr
  | .define key value => helperCall "defineProperty" [target, key, value]
  | .hold name value =>
    return .assign "=" (.ident name) (.object [.field (.name "_") value])
  | .run value => return value

/-- What is done with a class behind it, as a statement. -/
def Later.toStmt (target : Expr) : Later → Lower Stmt
  | .hold name value =>
    return .declare "var" name (some (.object [.field (.name "_") value]))
  | later => return .ofExpr (← later.toExpr target)

def classParts (owner : Owner) (found : Class) : Lower (Class × ClassParts) := do
  let base ← found.base.mapM l.expr
  let (hidden, brand) ← hiddenMembers owner found.members
  let sets ← found.members.mapM fun
    | .field _ _ false false key value => setupField hidden key value
    | _ => return ([], [])
  let branded ← brand.toList.mapM fun brand => do
    return Stmt.ofExpr (← helperCall "classPrivateMethodInitSpec" [.this, .ident brand])
  let setup := branded ++ sets.flatMap Prod.snd
  let members ← withConstructor found.base.isSome setup found.members
  let uses := Scope.partUses l.depth (.expr (.classExpr { found with name := none }))
  let within (isHeld : Bool) (around : Surroundings) : Surroundings :=
    { around with
      hidden := hidden ++ around.hidden
      isOutermost := false
      meanings := found.name.toList.map (fun name => (name, .class owner isHeld)) ++ around.meanings }
  let declared := l.declaring found.name.toList uses
  let inner := declared.within (within false)
  let shared := (declared.within (within true)).within fun around =>
    { around.ownThis with thisClass := some owner, superHome := some ⟨owner, false⟩ }
  let decorators ← found.decorators.mapM l.expr
  let parts ← members.foldlM (addMember inner shared owner found.base.isSome setup hidden) {}
  let marks := brand.toList.map fun brand =>
    Stmt.declare "var" brand (some (.new (.ident "WeakSet") [] true))
  let before ← (sets.flatMap Prod.fst ++ parts.before ++ marks).mapM fun stmt => do
    match stmt.node with
    | .variable "let" [(name, some value)] =>
      return Stmt.new (.variable "let" [(name, some (← l.expr value))])
    | _ => return stmt
  return ({ found with decorators, base, members := parts.members }, { parts with before })

def newOwner (name : String) (isValue : Bool) : Lower Owner := do
  let id := (← get).classCount
  modify fun s => { s with classCount := id + 1 }
  return { id, name, isValue }

/-- The variable that holds the class, if there is one. -/
def classHolder? (owner : Owner) : Lower (Option String) := do
  return ((← get).classNames.find? fun found => found.1 == owner.id).map Prod.snd

def Class.hasShared (found : Class) : Bool := found.members.any fun
  | .field _ _ isStatic _ _ _ => isStatic
  | .block .. => true
  | _ => false

def classExpression (found : Class) : Lower Expr := do
  let owner ← newOwner (found.name.getD "Class") true
  if Class.hasShared found then
    let name ← Lower.classHolder owner
    modify fun s => { s with hoisted := name :: s.hoisted }
  let (value, parts) ← classParts l owner found
  let before := parts.before.filterMap fun stmt => match stmt.node with
    | .variable _ [(.ident name, some value)] => some (name, value)
    | _ => none
  let held := parts.later.filterMap fun
    | .hold name _ => some name
    | _ => none
  modify fun s => { s with
    hoisted := held.reverse ++ (before.map Prod.fst).reverse ++ s.hoisted
    trailing := s.trailing ++ parts.functions }
  let first := before.map fun (name, value) => Expr.assign "=" (.ident name) value
  match ← classHolder? owner with
  | some name =>
    if !Class.hasShared found then modify fun s => { s with hoisted := name :: s.hoisted }
    let later ← parts.later.mapM fun later => later.toExpr (.ident name)
    return .sequence (first ++ .assign "=" (.ident name) (.classExpr value) :: later ++ [.ident name])
  | none => if first.isEmpty then return .classExpr value else return .sequence (first ++ [.classExpr value])

end ComponentBundle.Script.Lowering
