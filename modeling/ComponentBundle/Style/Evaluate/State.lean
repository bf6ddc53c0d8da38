import ComponentBundle.Path
import ComponentBundle.Style.Builtin.Table
import ComponentBundle.Style.Files
import ComponentBundle.Style.Tree

/-!
# The state of an evaluation

Blocks open frames of names. Functions and mixins see the frames that surround them where they are
written, even when those have been left, so frames are numbered and kept.
-/
namespace ComponentBundle.Style

structure Callable where
  parameters : Parameters
  body : List Statement
  scopes : List Nat
  takesContent : Bool := false

/-- A mixin of a style, or the one that brings in the styles of a file. -/
inductive Mixin where
  | written (m : Callable)
  | loadStyles

/-- A block that a mixin is used with, and the block around its use. -/
inductive Content where
  | mk (parameters : Parameters) (body : List Statement) (scopes : List Nat) (outer : Option Content)

/-- Names that are declared in one block. Functions are numbered. -/
structure Frame where
  values : List (String × Value) := []
  functions : List (String × Nat) := []
  mixins : List (String × Callable) := []

/-- A module: one that comes with the language, or a file with its frame. -/
inductive Module where
  | builtin (name : String)
  | file (frame : Nat)
  deriving DecidableEq

/-- A module that a file uses under a name, or without one. -/
structure Usage where
  owner : Nat
  space : Option String
  module : Module

/-- A module whose members a file passes on, all of them or those that are chosen. -/
structure Passage where
  owner : Nat
  module : Module
  selection : Selection

/-- The name that a member has in the module, if it is passed on under a name. The names of variables
have a mark in the lists of the selection. -/
def Passage.inner? (p : Passage) (mark name : String) : Option String :=
  let s := p.selection
  let isChosen := s.shown.all (·.contains (mark ++ name)) && s.hidden.all (!·.contains (mark ++ name))
  if isChosen && s.opening.toList.isPrefixOf name.toList then
    some (String.ofList (name.toList.drop s.opening.length))
  else none

structure GivenSetting where
  value : Value
  span : Span
  isUsed : Bool := false

structure Evaluation where
  frames : Array Frame := #[{}]
  functions : Array Callable := #[]
  tree : Tree := {}
  /-- What has been extended, file by file. -/
  extenders : Array Extender := #[{}]
  usages : List Usage := []
  passages : List Passage := []
  settings : Array GivenSetting := #[]
  loaded : List (Path × Nat) := []
  loading : List Path := []
  /-- The number of calls of functions that come with the language. -/
  calls : Nat := 0
  /-- The number of lists of arguments so far. -/
  argumentLists : Nat := 0
  /-- The lists of arguments whose arguments by name have been looked at. -/
  accessed : List Nat := []

/-- A step of an evaluation. -/
abbrev Eval := StateT Evaluation (Except Fault)

structure Context where
  files : Files
  directory : Option Path
  front : Span
  /-- The file of the part, if it is not the style itself. -/
  file : Option Path := none
  /-- The frames of the blocks around, the innermost one first. -/
  scopes : List Nat := [0]
  /-- Whether no block around is more than a block of control, so that values are given to variables
  of the file. -/
  isSemiGlobal : Bool := true
  content : Option Content := none
  /-- The part of the style sheet that grows. -/
  parent : Nat := 0
  rule : Option Nat := none
  isOutsideRule : Bool := false
  isInKeyframes : Bool := false
  isInAtRule : Bool := false
  isInFunction : Bool := false
  isInMixin : Bool := false
  isInSupports : Bool := false
  isPlain : Bool := false
  property : Option String := none
  queries : Option (List MediaQuery) := none
  /-- The queries that those around have been put together from. -/
  sources : List MediaQuery := []
  extender : Nat := 0
  settings : List (String × Nat) := []
  settingsSpan : Option Span := none

def Context.hasRule (c : Context) : Bool := !c.isOutsideRule && c.rule.isSome

def Context.top (c : Context) : Nat := c.scopes.getLastD 0

/-- Whether no block is around. -/
def Context.isAtTop (c : Context) : Bool := c.scopes.length ≤ 1

namespace Eval

variable {α : Type}

def stop (message : String) (span : Span) : Eval α := throw ⟨message, span⟩

/-- The result of an operation on what stands at a place. -/
def ofOutcome (outcome : Outcome α) (span : Span) : Eval α :=
  match outcome with
  | .ok a => return a
  | .error message => stop message span

def modifyTree (change : Tree → Tree) : Eval Unit := modify fun s => { s with tree := change s.tree }

def addNode (c : Context) (kind : NodeKind) : Eval Unit :=
  modifyTree fun tree => (tree.add kind c.parent).1

/-- Adds a part next to those that are to be left, and tells its number. -/
def addOutside (c : Context) (leaves : NodeKind → Bool) (kind : NodeKind) : Eval Nat := do
  let (tree, id) := (← get).tree.addOutside leaves kind c.parent
  modify fun s => { s with tree }
  return id

def ruleSelector (c : Context) : Eval (Option Selector) := do
  let tree := (← get).tree
  return c.rule.map tree.selector

def frame (id : Nat) : Eval Frame := do return (← get).frames.getD id {}

def modifyFrame (id : Nat) (change : Frame → Frame) : Eval Unit :=
  modify fun s => { s with frames := s.frames.modify id change }

def newFrame : Eval Nat := do
  let id := (← get).frames.size
  modify fun s => { s with frames := s.frames.push {} }
  return id

/-- The context of a block with a frame of its own. In a block of control, values are still given to
the variables of the file if it stands at the top. -/
def inFrame (c : Context) (isControl : Bool) : Eval Context := do
  let id ← newFrame
  return { c with
    scopes := id :: c.scopes
    isSemiGlobal := isControl && c.isSemiGlobal }

/-- Puts a value in front of the others of its name. -/
def put (list : List (String × α)) (name : String) (a : α) : List (String × α) :=
  if list.any fun (other, _) => other == name then
    list.map fun (other, old) => if other == name then (other, a) else (other, old)
  else (name, a) :: list

/-- Gives a value to a variable of a frame. -/
def define (id : Nat) (name : String) (value : Value) : Eval Unit :=
  modifyFrame id fun f => { f with values := put f.values name value }

/-- A member of a module or of a module that it passes on, at most `n` modules away. What a file
declares itself comes first, then what it has passed on last. Names with a dash in front are private. -/
def memberWithin? (mark : String) (find : String → Module → Eval (Option α)) :
    (n : Nat) → String → Module → Eval (Option α)
  | 0, _, _ => return none
  | n + 1, name, module => do
    match module with
    | .builtin _ => find name module
    | .file id =>
      if !name.startsWith "-" then
        if let some found ← find name module then return some found
      for passage in (← get).passages.reverse do
        if passage.owner == id then
          if let some inner := passage.inner? mark name then
            if let some found ← memberWithin? mark find n inner passage.module then
              return some found
      return none

/-- A member of a module or of a module that it passes on. No passage leads back to its module, so none is
gone through twice. -/
def memberOf? (mark : String) (find : String → Module → Eval (Option α)) (name : String)
    (module : Module) : Eval (Option α) := do
  memberWithin? mark find ((← get).passages.length + 1) name module

/-- The module that the file uses under a name. -/
def usedModule (c : Context) (space : String) (span : Span) : Eval Module := do
  match (← get).usages.find? fun usage => usage.owner == c.top && usage.space == some space with
  | some usage => return usage.module
  | none => stop ("There is no module with the namespace \"" ++ space ++ "\".") span

/-- A member of a module that the file uses under a name, or of those used without one. -/
def used? (mark : String) (find : String → Module → Eval (Option α)) (c : Context) (r : Reference)
    (span : Span) : Eval (Option α) := do
  match r.space with
  | some space =>
    memberOf? mark find r.name (← usedModule c space (r.spaceSpan.getD span))
  | none =>
    for usage in (← get).usages do
      if usage.owner == c.top && usage.space.isNone then
        if let some found ← memberOf? mark find r.name usage.module then return some found
    return none

def inFrames? (find : Frame → Option α) : List Nat → Eval (Option α)
  | [] => return none
  | id :: rest => do
    match find (← frame id) with
    | some found => return some found
    | none => inFrames? find rest

def localVariable? (c : Context) (name : String) : Eval (Option Value) :=
  inFrames? (fun f => f.values.lookup name) c.scopes

def moduleVariable? (name : String) (module : Module) : Eval (Option Value) := do
  match module with
  | .builtin library => return (Builtin.moduleVariables library).lookup name
  | .file id => return (← frame id).values.lookup name

def findVariable (c : Context) (r : Reference) (span : Span) : Eval (Option Value) := do
  if r.space.isNone then
    if let some found ← localVariable? c r.name then return some found
  used? "$" moduleVariable? c r span

/-- The frame that a variable of a module stands in, and its name there. -/
def variablePlace? (name : String) (module : Module) : Eval (Option (Nat × String)) := do
  match module with
  | .builtin _ => return none
  | .file id =>
    return if ((← frame id).values.lookup name).isSome then some (id, name) else none

/-- Gives a value to a variable: of the file, of the nearest block that has it, or of this block. -/
def assign (c : Context) (name : String) (value : Value) (isGlobal : Bool) (span : Span) :
    Eval Unit := do
  if isGlobal || c.isAtTop then
    if ((← frame c.top).values.lookup name).isNone then
      if let some (id, inner) ← used? "$" variablePlace? c { space := none, name } span then
        return ← define id inner value
    define c.top name value
  else
    let mut owner := c.scopes.headD 0
    let mut isFound := false
    for id in c.scopes do
      if !isFound && ((← frame id).values.lookup name).isSome then
        isFound := true
        if id != c.top || c.isSemiGlobal then owner := id
    define owner name value

def assignInModule (c : Context) (r : Reference) (space : String) (value : Value) (span : Span) :
    Eval Unit := do
  let module ← usedModule c space (r.spaceSpan.getD span)
  match ← memberOf? "$" variablePlace? r.name module, module with
  | some (id, inner), _ => define id inner value
  | none, .builtin _ => stop "Cannot modify built-in variable." span
  | none, .file _ => stop "Undefined variable." span

def moduleMixin? (name : String) (module : Module) : Eval (Option Mixin) := do
  match module with
  | .builtin library =>
    return if library == "meta" && name == "load-css" then some .loadStyles else none
  | .file id => return ((← frame id).mixins.lookup name).map .written

def localMixin? (c : Context) (name : String) : Eval (Option Mixin) := do
  return (← inFrames? (fun f => f.mixins.lookup name) c.scopes).map .written

def findMixin (c : Context) (r : Reference) (span : Span) : Eval (Option Mixin) := do
  if r.space.isNone then
    if let some found ← localMixin? c r.name then return some found
  used? "" moduleMixin? c r span

/-- The functions that need to know what surrounds their calls. -/
def contextualNames : List String :=
  ["variable-exists", "global-variable-exists", "function-exists", "mixin-exists", "content-exists",
    "get-function", "call", "keywords"]

/-- Those of them that only a module has. -/
def innerContextualNames : List String := ["module-variables", "module-functions"]

def globalFunction? (name : String) : Option FunctionName :=
  if contextualNames.contains name || (Builtin.globals.lookup name).isSome then
    some (.library none name)
  else none

def moduleFunction? (name : String) (module : Module) : Eval (Option FunctionName) := do
  match module with
  | .builtin library =>
    let isContextual := library == "meta" && (contextualNames ++ innerContextualNames).contains name
    let isKnown := ((Builtin.module? library).bind (·.lookup name)).isSome
    return if isContextual || isKnown then some (.library (some library) name) else none
  | .file id => return ((← frame id).functions.lookup name).map fun place => .written place name

def localFunction? (c : Context) (name : String) : Eval (Option FunctionName) := do
  return (← inFrames? (fun f => f.functions.lookup name) c.scopes).map fun place =>
    .written place name

def findFunction (c : Context) (r : Reference) (span : Span) : Eval (Option FunctionName) := do
  if r.space.isNone then
    if let some found ← localFunction? c r.name then return some found
  used? "" moduleFunction? c r span

end Eval

end ComponentBundle.Style
