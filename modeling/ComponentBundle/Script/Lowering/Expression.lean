import ComponentBundle.Script.Lowering.Class
import ComponentBundle.Script.Token

/-!
# Lowering expressions

An expression is lowered by giving it an older form, whose parts are then lowered.
-/
namespace ComponentBundle.Script.Lowering

variable (l : Lowering)

def element : Element → Lower Element
  | .hole => return .hole
  | .comments token => return .comments token
  | .item value => return .item (← l.expr value)
  | .spread value => return .spread (← l.expr value)

/-- The name that a function takes from its key. What a name cannot have becomes an underscore. -/
def functionName (text : String) : String :=
  let name := String.ofList (text.toList.map fun c => if Text.isIdentifierPart c then c else '_')
  let isFree := !reservedWords.contains name && name != "arguments" &&
    name.toList.head?.any Text.isIdentifierStart
  if isFree then name else "_" ++ name

def member : Member → Lower Member
  | .field name (.function function) => do
    let name ← key l name
    return .field name (← functionValue l function ((knownKey? name).map functionName))
  | .field name value => return .field (← key l name) (← l.expr value)
  | .short name => do
    match ← l.expr (.ident name) with
    | .ident found => return if found == name then .short name else .field (.name name) (.ident found)
    | value => return .field (.name name) value
  | .cover name value offset => return .cover name (← l.expr value) offset
  | .method kind name function => return .method kind (← key l name) (← method l none function)
  | .spread value => return .spread (← l.expr value)

/-- What `this` becomes. -/
def thisExpr : Lower Expr := do
  match l.around.thisClass with
  | some owner => return .ident (← Lower.classHolder owner)
  | none => if l.around.borrowsThis then return .ident (← heldThis) else return .this

/-- What `super` stands for in a call of a helper: the class, or what its objects inherit from. -/
def superOwner (home : SuperHome) : Lower Expr := do
  let owner : Expr := .ident (← Lower.classHolder home.owner)
  return if home.isProto then .member owner "prototype" false else owner

/-- A member of what the class extends, given its key as a value and the function that reads it. -/
def superRead (key : Expr) (use : SuperUse) (keys : List Expr) : Lower Expr := do
  match l.around.superHome with
  | some home => helperCall "superPropGet" [← superOwner home, ← l.expr key, ← thisExpr l]
  | none => return .callOf (← heldSuper use) (← keys.mapM l.expr)

def superCall (key : Expr) (use : SuperUse) (keys : List Expr) (items : List Element) :
    Lower Expr := do
  match l.around.superHome with
  | some home =>
    let found ← helperCall "superPropGet"
      [← superOwner home, ← l.expr key, ← thisExpr l, .number ⟨2, 0⟩]
    return .callOf found [.array (← items.mapM (element l))]
  | none =>
    let function : Expr := .callOf (← heldSuper use) (← keys.mapM l.expr)
    return .call (.member function "call" false)
      (.item (← thisExpr l) :: (← items.mapM (element l))) false false

/-- Lowers an assignment to a member of what the class extends. -/
def superWrite (key : Expr) (use : SuperUse) (keys : List Expr) (value : Expr) : Lower Expr := do
  match l.around.superHome with
  | some home =>
    helperCall "superPropSet"
      [← superOwner home, ← l.expr key, ← l.expr value, ← thisExpr l, .number ⟨1, 0⟩]
  | none => return .callOf (← heldSuper use) (← (keys ++ [value]).mapM l.expr)

/-- Whether members of what the class extends cannot be written as such. -/
def losesSuper : Bool := l.around.superHome.isSome || l.around.borrowsThis

/-- Changes a hidden member by an operator that also reads it. -/
def updateHidden (hidden : Hidden) (base : Expr) (name operator : String) (before : Bool) :
    Lower Expr := do
  let (first, again) ← duplicate l false base
  let holder ← Lower.holderFor (.hiddenMember base name false)
  let value ← readHidden l hidden name again
  if before then
    writeHidden l hidden name first
      (.sequence [keep holder value, .update operator true (.ident holder), .ident holder])
  else
    let result ← Lower.holderFor (.hiddenMember base name false)
    let written ← writeHidden l hidden name first
      (.sequence [keep holder value, keep result (.update operator false (.ident holder)), .ident holder])
    return .sequence [written, .ident result]

def assignHidden (hidden : Hidden) (name : String) (base : Expr) (operator : String)
    (value : Expr) : Lower Expr := do
  if operator == "=" then l.expr (← writeHidden l hidden name base value)
  else
    let inner := String.ofList (operator.toList.dropLast)
    let (first, again) ← duplicate l false base
    if ["&&", "||", "??"].contains inner then
      l.expr (.binary inner (← readHidden l hidden name first)
        (← writeHidden l hidden name again value))
    else
      let read ← readHidden l hidden name again
      l.expr (← writeHidden l hidden name first (.binary inner read value))

def assignment (operator : String) (target : Pattern) (value : Expr) : Lower Expr := do
  let hidden := match target with
    | .target (.hiddenMember base name _) => (hidden? l name).map fun found => (found, name, base)
    | _ => none
  let written (place : Expr) : Expr :=
    if operator == "=" then value else .binary (String.ofList (operator.toList.dropLast)) place value
  match hidden, losesSuper l, target with
  | some (hidden, name, base), _, _ => assignHidden l hidden name base operator value
  | none, true, .target (.member .super name isOptional) =>
    superWrite l (.string name) (.write name) [] (written (.member .super name isOptional))
  | none, true, .target (.index .super key isOptional) =>
    superWrite l key .writeAny [key] (written (.index .super key isOptional))
  | none, _, _ =>
    if operator == "**=" then l.expr (← assignPower l target value)
    else if operator == "||=" || operator == "&&=" || operator == "??=" then
      let (read, write) ← readAndWrite l target
      l.expr (.binary (String.ofList (operator.toList.dropLast)) read (.assign "=" write value))
    else if hasObjectRest l.depth target then
      l.expr (← assignRest l target value)
    else return .assign operator (← l.pattern target) (← l.expr value)

def call (callee : Expr) (items : List Element) (isOptional isPure : Bool) : Lower Expr := do
  let plain : Lower Expr := do
    return .call (← l.expr callee) (← items.mapM (element l)) isOptional isPure
  match callee, losesSuper l with
  | .hiddenMember base name _, _ =>
    match hidden? l name with
    | some hidden =>
      let (first, again) ← duplicate l false base
      let function ← readHidden l hidden name first
      return .call (.member (← l.expr function) "call" false)
        (.item (← l.expr again) :: (← items.mapM (element l))) isOptional isPure
    | none => plain
  | .member .super name _, true => superCall l (.string name) (.read name) [] items
  | .index .super key _, true => superCall l key .readAny [key] items
  | .super, _ =>
    match l.around.superName with
    | some name => return .call (.ident name) (← items.mapM (element l)) isOptional isPure
    | none => return .call .super (← items.mapM (element l)) isOptional isPure
  | .paren (.chain value), _ =>
    return .call (.paren (← l.expr (← boundChain l value))) (← items.mapM (element l)) isOptional isPure
  | _, _ => plain

def binary (operator : String) (left right : Expr) : Lower Expr := do
  if operator == "??" then l.expr (← coalesce l left right)
  else if operator == "**" then l.expr (power left right)
  else
    match left with
    | .hiddenName name =>
      let checked ← helperCall "checkInRHS" [← l.expr right]
      match hidden? l name with
      | some (.field map) | some (.method (.set map) _) | some (.accessor (.set map) _ _) =>
        return .callOf (.member (.ident map) "has" false) [checked]
      | some (.shared owner _) | some (.method (.class owner) _)
      | some (.accessor (.class owner) _ _) =>
        return .binary "===" checked (← l.expr (← ownerExpr owner))
      | none => return .binary operator left (← l.expr right)
    | _ => return .binary operator (← l.expr left) (← l.expr right)

def exprRule : Expr → Lower Expr
  | .ident name => do
    match l.meaning? name with
    | some (.name text) => return .ident text
    | some (.member base text) => return .member (.ident base) text false
    | some (.class owner true) => return .ident (← Lower.classHolder owner)
    | some (.class _ false) | none =>
      if name == "arguments" && l.around.borrowsThis && !l.around.isTop then
        return .ident (← heldArguments)
      else return .ident name
  | .this => thisExpr l
  | .bigint text offset => do
    Lower.refuse
      "Big integer literals are not available in the configured target environment." offset
    return .bigint text offset
  | .regex found flags => return regex found flags
  | .template parts values => return .template parts (← values.mapM l.expr)
  | .tagged tag parts values => return .tagged (← l.expr tag) parts (← values.mapM l.expr)
  | .array items => return .array (← items.mapM (element l))
  | .object members => do spreadObject (← members.mapM (member l))
  | .function found => functionValue l found none
  | .classExpr found => classExpression l found
  | .unary operator value => do
    match operator, value with
    | "delete", .chain inner => l.expr (← dechain l inner (.bool true) (.unary "delete"))
    | _, _ => return .unary operator (← l.expr value)
  | .update operator before value => do
    match value with
    | .hiddenMember base name _ =>
      match hidden? l name with
      | some hidden => l.expr (← updateHidden l hidden base name operator before)
      | none => return .update operator before value
    | _ => return .update operator before (← l.expr value)
  | .binary operator left right => binary l operator left right
  | .assign operator left value => assignment l operator left value
  | .conditional test yes no => return .conditional (← l.expr test) (← l.expr yes) (← l.expr no)
  | .call callee items isOptional isPure => call l callee items isOptional isPure
  | .new callee items isPure => return .new (← l.expr callee) (← items.mapM (element l)) isPure
  | .member base name isOptional =>
    match base, losesSuper l with
    | .super, true => superRead l (.string name) (.read name) []
    | _, _ => return .member (← l.expr base) name isOptional
  | .hiddenMember base name isOptional => do
    match hidden? l name with
    | some hidden => l.expr (← readHidden l hidden name base)
    | none => return .hiddenMember (← l.expr base) name isOptional
  | .index base name isOptional =>
    match base, losesSuper l with
    | .super, true => superRead l name .readAny [name]
    | _, _ => return .index (← l.expr base) (← l.expr name) isOptional
  | .chain value => do
    if (← get).inParameters then l.expr (enclosedChain value)
    else l.expr (← dechain l value .nothing id)
  | .sequence values => return .sequence (← values.mapM l.expr)
  | .yield isAll value => do
    match isAll, ← value.mapM l.expr with
    | true, some value => yieldAll l value
    | _, value => return .yield isAll value
  | .await value offset => do wait l (← l.expr value) offset
  | .importCall items => return .importCall (← items.mapM (element l))
  | .commented token value => do
    match ← l.expr value with
    | .object members => return .commented token (.object members)
    | value => return value
  | .paren value => return .paren (← l.expr value)
  | value => return value

/-- Whether the pattern binds or assigns to the name, possibly with a default. -/
def isNamed (name : String) : Pattern → Bool
  | .ident found => found == name
  | .default found _ => isNamed name found
  | _ => false

def patternRule : Pattern → Lower Pattern
  | .ident name => do
    match l.meaning? name with
    | some (.name text) => return .ident text
    | some (.member base text) => return .target (.member (.ident base) text false)
    | _ => return .ident name
  | .target value => do
    match value with
    | .hiddenMember base name _ =>
      match hidden? l name with
      | some hidden => return .target (← l.expr (← placeHidden l hidden name base))
      | none => return .target value
    | _ => return .target (← l.expr value)
  | .object fields rest => do
    let fields ← fields.mapM fun field => do
      let found ← l.pattern field.pattern
      let isShort := field.isShort && match field.key with
        | .name name => isNamed name found
        | _ => false
      return (⟨← key l field.key, isShort, found⟩ : Field)
    return .object fields (← rest.mapM l.pattern)
  | .array items rest => do
    return .array (← items.mapM fun item => item.mapM l.pattern) (← rest.mapM l.pattern)
  | .default found value => return .default (← l.pattern found) (← l.expr value)

def variableValue (found : Pattern) (value : Expr) : Lower Expr :=
  match found, value with
  | .ident name, .function function => functionValue l function (some name)
  | _, value => l.expr value

def loweredItems (items : List Declarator) : Lower (List Declarator) := do
  let items ← items.mapM (declarators l l.depth)
  items.flatten.mapM fun (found, value) => do
    return (← l.pattern found, ← value.mapM (variableValue l found))

end ComponentBundle.Script.Lowering
