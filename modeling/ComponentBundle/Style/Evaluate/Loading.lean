import ComponentBundle.Style.Evaluate.Rule
import ComponentBundle.Style.Parser.Sheet
import ComponentBundle.Style.Search

/-!
# Files and modules

An import brings the statements of a file in. A module is evaluated once, by itself, and may be given
values for its variables by the first file that uses it.
-/
namespace ComponentBundle.Style.Eval

variable (i : Interpreter) (c : Context)

def formOf (p : Path) : Form :=
  match p.extension? with
  | some ending =>
    if ending == "sass".toList then .indented else if ending == "css".toList then .css else .braces
  | none => .braces

def load (name : Text) (span : Span) : Eval (Path × List Statement) := do
  let some p := c.files.search c.file c.directory name
    | stop "Can't find stylesheet to import." span
  let some text := c.files.read? p | stop "Can't find stylesheet to import." span
  return (p, ← ofParser (parse (formOf p) { name := p.text, text }))

def inFile (p : Path) (c : Context) : Context :=
  { c with file := some p, isPlain := formOf p == .css }

/-- Evaluates a file that is not being evaluated already. -/
def whileLoading {α : Type} (p : Path) (message : String) (span : Span) (run : Eval α) : Eval α := do
  if (← get).loading.contains p then stop message span
  modify fun s => { s with loading := p :: s.loading }
  let result ← run
  modify fun s => { s with loading := s.loading.filter (· != p) }
  return result

def modifierText : ImportModifier → Eval String
  | .text pieces => piecesText i c pieces
  | .supports condition => conditionText i c condition

/-- Brings the statements of files in, or leaves imports to the page. -/
def importAll (items : List ImportItem) : Eval Unit := do
  for item in items do
    match item with
    | .file name span =>
      let (p, statements) ← load c name span
      whileLoading p "This file is already being loaded." span (run i (inFile p c) statements)
    | .plain url modifiers =>
      let text ← piecesText i c url
      let words := String.join (← modifiers.mapM (modifierText i c))
      addNode c (.plainImport (if words.isEmpty then text else text ++ " " ++ words))

def loadStyles (g : Given) : Eval Unit := do
  let call : Call String := do
    Call.atMost 2
    let (url, _) ← Call.string 0 "url"
    let values ← Call.argD 1 "with" .null
    match values, values.pairs? with
    | .null, _ => return url
    | _, some pairs =>
      let _ ← pairs.foldlM (fun (names : List String) (key, _) => do
        let .string name _ := key
          | Call.stop ("$with key: " ++ key.shown ++ " is not a string.")
        let name := name.map fun ch => if ch = '_' then '-' else ch
        if names.contains name then
          Call.stop ("The variable " ++ name ++ " was configured twice.")
        return name :: names) []
      return url
    | value, none => Call.stop ("$with: " ++ value.shown ++ " is not a map.")
  let (url, _) ← ofParser (call g)
  let (p, statements) ← load c url.toList g.span
  run i (inFile p c) statements
  modify fun s => { s with loading := s.loading.filter (· != p) }

/-- Values that a module is loaded with, by their numbers, and the statement that they come from. -/
structure Configuration where
  settings : List (String × Nat) := []
  span : Option Span := none

/-- Notes a value for a variable, and tells its number. -/
def addSetting (value : Value) (span : Span) : Eval Nat := do
  let place := (← get).settings.size
  modify fun s => { s with settings := s.settings.push { value, span } }
  return place

/-- A value that has not been used. -/
def setting? (settings : List (String × Nat)) (name : String) : Eval (Option (Nat × GivenSetting)) := do
  let known := (← get).settings
  return (settings.lookup name).bind fun place =>
    (known[place]?).bind fun found => if found.isUsed then none else some (place, found)

/-- Uses a value for a variable, if there is one. -/
def takeSetting (settings : List (String × Nat)) (name : String) : Eval (Option Value) := do
  let some (place, found) ← setting? settings name | return none
  modify fun s => { s with settings := s.settings.modify place fun g => { g with isUsed := true } }
  return match found.value with
    | .null => none
    | value => some value

def unusedSettings (settings : List (String × Nat)) : Eval (List (String × Nat)) :=
  settings.filterM fun (name, _) => do return (← setting? settings name).isSome

def requireUsed (settings : List (String × Nat)) : Eval Unit := do
  for (name, _) in settings do
    if let some (_, found) ← setting? settings name then
      stop "This variable was not declared with !default in the @used module." found.span

def passedSettings (settings : List (String × Nat)) (s : Selection) : List (String × Nat) :=
  settings.filterMap fun (name, place) => do
    guard (s.opening.toList.isPrefixOf name.toList)
    let inner := String.ofList (name.toList.drop s.opening.length)
    guard (s.shown.all (·.contains ("$" ++ inner)) && s.hidden.all (!·.contains ("$" ++ inner)))
    return (inner, place)

/-- The module of an address. Its own configuration counts, or else that of the file. -/
def moduleOf (url : Text) (own : Option Configuration) (span : Span) : Eval Module := do
  if "sass:".toList.isPrefixOf url then
    let library := String.ofList (url.drop 5)
    if (Builtin.module? library).isSome then
      if let some given := own.bind (·.span) then
        stop "Built-in modules can't be configured." given
      return .builtin library
  let (p, statements) ← load c url span
  let configuration := own.getD { settings := c.settings, span := c.settingsSpan }
  whileLoading p "Module loop: this module is already being loaded." span do
    let s ← get
    if let some id := s.loaded.lookup p then
      if let some given := configuration.span then
        stop "This module was already loaded, so it can't be configured using \"with\"." given
      return .file id
    let id ← newFrame
    let extender := s.extenders.size
    modify fun s => { s with extenders := s.extenders.push {} }
    run i (inFile p {
      files := c.files, directory := c.directory, front := c.front, scopes := [id], extender
      settings := configuration.settings, settingsSpan := configuration.span }) statements
    modify fun s => { s with loaded := (p, id) :: s.loaded }
    return .file id

def useModule (url : Text) (space : Option String) (settings : List Setting) (span : Span) :
    Eval Unit := do
  let given ← settings.mapM fun setting => do
    let value := (← i.term c setting.value).withoutQuotient
    return (setting.name, ← addSetting value setting.span)
  let module ← moduleOf i c url
    (some { settings := given, span := if given.isEmpty then none else some span }) span
  let isMine (usage : Usage) : Bool := usage.owner == c.top
  match space with
  | some named =>
    if (← get).usages.any fun usage => isMine usage && usage.space == some named then
      stop ("There's already a module with namespace \"" ++ named ++ "\".") span
  | none =>
    for (name, _) in (← frame c.top).values.reverse do
      if (← memberOf? "$" moduleVariable? name module).isSome then
        stop ("This module and the new module both define a variable named \"$" ++ name ++ "\".") span
  modify fun s => { s with usages := s.usages ++ [⟨c.top, space, module⟩] }
  requireUsed given

/-- The settings of a module that a file passes on, with those that the file gives it itself. -/
def forwardedSettings (passed : List (String × Nat)) (settings : List Setting) :
    Eval (List (String × Nat)) := do
  let copies ← passed.filterMapM fun (name, _) => do
    let some (_, found) ← setting? passed name | return none
    return some (name, ← addSetting found.value found.span)
  settings.foldlM (fun given setting => do
    if setting.isDefault then
      if (← takeSetting passed setting.name).isSome then return given
    let value := (← i.term c setting.value).withoutQuotient
    let place ← addSetting value setting.value.span
    return given.filter (·.1 != setting.name) ++ [(setting.name, place)]) copies

def forward (url : Text) (selection : Selection) (settings : List Setting) (span : Span) :
    Eval Unit := do
  let isEmpty := (← unusedSettings c.settings).isEmpty
  let passed := if isEmpty then [] else passedSettings c.settings selection
  let inherited := if isEmpty then none else c.settingsSpan
  let add (module : Module) : Eval Unit :=
    modify fun s => { s with passages := s.passages ++ [⟨c.top, module, selection⟩] }
  if settings.isEmpty then
    add (← moduleOf i { c with settings := passed, settingsSpan := inherited } url none span)
  else
    let given ← forwardedSettings i c passed settings
    add (← moduleOf i c url (some { settings := given, span := some span }) span)
    let fixed := (settings.filter (!·.isDefault)).map (·.name)
    for (name, _) in passed do
      if !fixed.contains name && (← setting? given name).isNone then
        let _ ← takeSetting passed name
    requireUsed (given.filter fun (name, _) => settings.any fun setting => setting.name == name)

end ComponentBundle.Style.Eval
