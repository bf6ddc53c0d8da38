import ComponentBundle.Style.Evaluate.Call

/-!
# Functions about the style itself

Functions that ask what surrounds their call, and functions that call others.
-/
namespace ComponentBundle.Style.Eval

/-- A call of a function that needs to know what surrounds it. -/
abbrev Inquiry := StateT Given Eval

instance : MonadLift Call Inquiry where
  monadLift call := fun g =>
    match call g with
    | .ok found => return found
    | .error fault => throw fault

instance : MonadLift Outcome Inquiry where
  monadLift outcome := fun g =>
    match outcome with
    | .ok a => return (a, g)
    | .error message => stop message g.span

namespace Inquiry

variable (i : Interpreter) (c : Context)

/-- A name, in which dashes and underscores mean the same. -/
def nameAt (place : Nat) (name : String) : Inquiry String := do
  let (text, _) ← (Call.string place name : Call (String × Bool))
  return text.map fun ch => if ch = '_' then '-' else ch

/-- The name of a module, if one is given. -/
def space? (place : Nat) : Inquiry (Option String) := do
  let value ← (Call.argD place "module" .null : Call Value)
  let found ← (value.asString? "module" : Outcome (Option String))
  return found.map fun text => text.map fun ch => if ch = '_' then '-' else ch

/-- Whether a member of a name exists: in the module given, or else in the blocks around. -/
def member {α β : Type} (mark : String) (find : String → Module → Eval (Option α))
    (here : String → Eval (Option β)) : Inquiry Value := do
  (Call.atMost 2 : Call Unit)
  let name ← nameAt 0 "name"
  let span := (← get).span
  match ← space? 1 with
  | some space =>
    return .bool (← memberOf? mark find name (← usedModule c space span)).isSome
  | none => return .bool (← here name).isSome

def functionOf : Inquiry Value := do
  (Call.atMost 3 : Call Unit)
  let name ← nameAt 0 "name"
  let isPlain := (← (Call.argD 1 "css" (.bool false) : Call Value)).isTruthy
  let span := (← get).span
  let found ← match ← space? 2 with
    | some space =>
      if isPlain then stop "$css and $module may not both be passed at once." span
      findFunction c { space := some space, name } span
    | none =>
      if isPlain then pure (some (.plain name))
      else do pure ((← findFunction c { space := none, name } span).or (globalFunction? name))
  match found with
  | some f => return .function f
  | none => stop ("Function not found: " ++ name) span

/-- The result of a function given by itself or by its name, for the arguments behind it. -/
def call (again : FunctionName → Given → Eval Value) : Inquiry Value := do
  let span := (← get).span
  let f ← match ← (Call.arg 0 "function" : Call Value) with
    | .function f => pure f
    | .string text _ =>
      let name := text.map fun ch => if ch = '_' then '-' else ch
      let found ← findFunction c { space := none, name } span
      pure ((found.or (globalFunction? name)).getD (.plain name))
    | value => stop ("$function: " ++ value.shown ++ " is not a function reference.") span
  let g ← get
  again f { g with positional := g.positional.drop 1 }

def keywords : Inquiry Value := do
  (Call.atMost 1 : Call Unit)
  match ← (Call.arg 0 "args" : Call Value) with
  | .arguments _ named number =>
    access number
    return .map (named.map fun (name, value) => (.string name true, value))
  | value => stop ("$args: " ++ value.shown ++ " is not an argument list.") (← get).span

def hasContent : Inquiry Value := do
  (Call.atMost 0 : Call Unit)
  if !c.isInMixin then
    stop "content-exists() may only be called within a mixin." (← get).span
  return .bool c.content.isSome

/-- The members of a module and of those that it passes on, at most `n` modules away. -/
def membersWithin {α : Type} (mark : String) (own : Module → Eval (List (String × α))) :
    (n : Nat) → Module → Eval (List (String × α))
  | 0, _ => return []
  | n + 1, module => do
    let .file id := module | own module
    let public? := (← own module).filter fun (name, _) => !name.startsWith "-"
    (← getThe Evaluation).passages.reverse.foldlM (fun found passage => do
      if passage.owner != id then return found
      let inner ← membersWithin mark own n passage.module
      return found ++ inner.filterMap fun (name, a) =>
        let outer := passage.selection.opening ++ name
        if (passage.inner? mark outer).isNone || found.any fun (other, _) => other == outer then none
        else some (outer, a)) public?

def members {α : Type} (mark : String) (own : Module → Eval (List (String × α))) (module : Module) :
    Eval (List (String × α)) := do
  membersWithin mark own ((← getThe Evaluation).passages.length + 1) module

def membersOf (mark : String) (own : Module → Eval (List (String × Value))) : Inquiry Value := do
  (Call.atMost 1 : Call Unit)
  let name ← nameAt 0 "module"
  let module ← usedModule c name (← get).span
  let found ← members mark own module
  return .map (found.map fun (name, value) => (.string name true, value))

def variablesOf (module : Module) : Eval (List (String × Value)) := do
  match module with
  | .builtin library => return Builtin.moduleVariables library
  | .file id => return (← frame id).values.reverse

def functionsOf (module : Module) : Eval (List (String × Value)) := do
  match module with
  | .builtin library =>
    return ((Builtin.module? library).getD []).map fun (name, _) =>
      (name, .function (.library (some library) name))
  | .file id =>
    return (← frame id).functions.reverse.map fun (name, place) =>
      (name, .function (.written place name))

def result (name : String) (again : FunctionName → Given → Eval Value) : Inquiry Value := do
  match name with
  | "variable-exists" =>
    (Call.atMost 1 : Call Unit)
    return .bool (← localVariable? c (← nameAt 0 "name")).isSome
  | "global-variable-exists" =>
    member c "$" moduleVariable? fun name => do return (← frame c.top).values.lookup name
  | "function-exists" =>
    member c "" moduleFunction? fun name => do
      return (← localFunction? c name).or (globalFunction? name)
  | "mixin-exists" => member c "" moduleMixin? (localMixin? c)
  | "content-exists" => hasContent c
  | "get-function" => functionOf c
  | "keywords" => keywords
  | "module-variables" => membersOf c "$" variablesOf
  | "module-functions" => membersOf c "" functionsOf
  | _ => call c again

end Inquiry

variable (i : Interpreter) (c : Context)

def isContextual (module : Option String) (name : String) : Bool :=
  contextualNames.contains name || (module.isSome && innerContextualNames.contains name)

/-- The result of a function; one calls another at most `n` times. -/
def callFunction : (n : Nat) → FunctionName → Given → Span → Eval Value
  | _, .written place _, g, span => do
    match (← get).functions[place]? with
    | some f => callWritten i c f g span
    | none => stop "Undefined function." span
  | _, .plain name, g, span => do
    let texts ← g.positional.mapM fun value => ofOutcome value.css span
    plainText name texts (!g.named.isEmpty) span
  | 0, .library .., _, span => stop "Maximum call stack size exceeded." span
  | n + 1, .library module name, g, span => do
    if isContextual module name then
      let again (f : FunctionName) (g : Given) : Eval Value := callFunction n f g g.span
      return (← (Inquiry.result c name again).run' g).withoutQuotient
    let functions := match module with
      | some library => (Builtin.module? library).getD []
      | none => Builtin.globals
    match functions.lookup name with
    | some f =>
      let calls := (← get).calls
      modify fun s => { s with calls := calls + 1 }
      match f { g with draw := c.files.draw calls } with
      | .ok (value, _) => return value.withoutQuotient
      | .error fault => throw fault
    | none => stop "Undefined function." span

end ComponentBundle.Style.Eval
