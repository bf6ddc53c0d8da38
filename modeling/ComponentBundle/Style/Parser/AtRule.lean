import ComponentBundle.Style.Parser.Condition
import ComponentBundle.Style.Parser.Declaration

/-!
# Parsers of rules that begin with an at sign
-/
namespace ComponentBundle.Style.Parser

variable (g : Grammar)

def parameters : Parser Parameters := do
  expect '('
  skipGaps
  let found ← iterate (fun (found : List Parameter) => do
    if !(← isAt '$') then return .inr { items := found.reverse }
    let start ← place
    let named ← variableName
    skipGaps
    let default ← do
      if ← scan ':' then
        skipGaps
        pure (some (← g.item false))
      else if ← isAt '.' then
        expectText "..."
        skipGaps
        return .inr { items := found.reverse, rest := some named }
      else pure none
    if found.any fun other => other.name == named then
      stopAt "Duplicate argument." (← spanFrom start)
    if !(← scan ',') then return .inr { items := (⟨named, default⟩ :: found).reverse }
    skipGaps
    return .inl (⟨named, default⟩ :: found)) []
  expect ')'
  return found

def noArguments : Parser Arguments := do return .mk (← currentSpan) [] [] none none

/-- A rule that may not stand here. -/
def misplacedRule (start : Nat) : Parser Statement := do
  let _ ← anyValue g false
  stopAt "This at-rule is not allowed here." (← spanFrom start)

/-- A block under a condition or that is repeated. -/
def controlled (kind : Child) : Parser (List Statement) := do
  return (← within (fun s => { s with isInControl := true }) (g.block kind)).1

def ifRule (start : Nat) (kind : Child) : Parser Statement := do
  let width := (← get).width
  let test ← g.term
  let body ← controlled g kind
  let (branches, otherwise) ← iterate (fun (found : List (Term × List Statement)) => do
    if !(← scanElse width) then return .inr (found.reverse, none)
    skipGaps
    if ← scanName "if" then
      skipGaps
      let test ← g.term
      let body ← controlled g kind
      return .inl ((test, body) :: found)
    else
      let body ← controlled g kind
      return .inr (found.reverse, some body)) [(test, body)]
  let statement ← statementFrom start (.branches branches otherwise)
  skipBlanks
  return statement

def eachRule (start : Nat) (kind : Child) : Parser Statement := do
  let first ← variableName
  skipGaps
  let names ← iterate (fun (found : List String) => do
    if !(← scan ',') then return .inr found.reverse
    skipGaps
    let next ← variableName
    skipGaps
    return .inl (next :: found)) [first]
  expectName "in"
  skipGaps
  let items ← g.term
  let body ← controlled g kind
  statementFrom start (.each names items body)

def forRule (start : Nat) (kind : Child) : Parser Statement := do
  let named ← variableName
  skipGaps
  expectName "from"
  skipGaps
  let first ← g.bound
  let isExclusive ← do
    if ← scanName "to" then pure true
    else if ← scanName "through" then pure false
    else stop "Expected \"to\" or \"through\"."
  skipGaps
  let last ← g.term
  let body ← controlled g kind
  statementFrom start (.count named first last isExclusive body)

/-- A block that is repeated as long as a condition holds. -/
def whileRule (start : Nat) (kind : Child) : Parser Statement := do
  let test ← g.term
  let body ← controlled g kind
  statementFrom start (.repetition test body)

def valueRule (start : Nat) (make : Term → StatementNode) : Parser Statement := do
  let value ← wholeTerm g
  requireEnd
  statementFrom start (make value)

/-- Stops if a function or a mixin may not be declared here. -/
def requireDeclarable (what : String) (start : Nat) : Parser Unit := do
  let s ← surroundings
  if s.isInMixin || s.isInContent then
    stopAt ("Mixins may not contain " ++ what.toLower ++ " declarations.") (← spanFrom start)
  if s.isInControl then
    stopAt (what ++ "s may not be declared in control directives.") (← spanFrom start)

def forbiddenFunctionNames : List String :=
  ["calc", "element", "expression", "url", "and", "or", "not", "clamp"]

def unvendored (name : String) : String :=
  match name.toList with
  | '-' :: c :: rest =>
    if c = '-' then name
    else match rest.dropWhile (· ≠ '-') with
      | _ :: found => String.ofList found
      | [] => name
  | _ => name

def functionRule (start : Nat) : Parser Statement := do
  let named ← plainName
  skipGaps
  let parameters ← parameters g
  requireDeclarable "Function" start
  if forbiddenFunctionNames.contains (unvendored named) then
    stopAt "Invalid function name." (← spanFrom start)
  skipGaps
  let (body, _) ← within (fun s => { s with isInFunction := true }) (g.block .function)
  statementFrom start (.function named parameters body)

def mixinRule (start : Nat) : Parser Statement := do
  let named ← plainName
  skipGaps
  let parameters ← if ← isAt '(' then parameters g else pure {}
  requireDeclarable "Mixin" start
  skipGaps
  modify fun r => { r with foundContent := false }
  let (body, _) ← within (fun s => { s with isInMixin := true }) (g.block .statement)
  statementFrom start (.mixin named parameters body (← get).foundContent)

def includeRule (start : Nat) : Parser Statement := do
  let nameStart ← place
  let first ← name
  let spaceSpan ← do
    if ← isAt '.' then
      skip
      pure (some (← spanFrom nameStart))
    else pure none
  let reference : Reference ← do
    if spaceSpan.isSome then
      pure { space := some (dashed first), name := ← publicName, spaceSpan }
    else pure { space := none, name := dashed first }
  skipGaps
  let span ← spanFrom nameStart
  let given ← if ← isAt '(' then arguments g true false else noArguments
  skipGaps
  let parameters? ← do
    if ← scanName "using" then
      skipGaps
      let found ← parameters g
      skipGaps
      pure (some found)
    else pure none
  if parameters?.isSome || (← isAtBlock) then
    let (body, _) ← within (fun s => { s with isInContent := true }) (g.block .statement)
    statementFrom start (.useMixin reference span given (some (parameters?.getD {}, body)))
  else
    requireEnd
    statementFrom start (.useMixin reference span given none)

def contentRule (start : Nat) : Parser Statement := do
  if !(← surroundings).isInMixin then
    stopAt "@content is only allowed within mixin declarations." (← spanFrom start)
  skipGaps
  let given ← if ← isAt '(' then arguments g true false else noArguments
  requireEnd
  modify fun r => { r with foundContent := true }
  statementFrom start (.content given)

def extendRule (start : Nat) : Parser Statement := do
  let s ← surroundings
  if !s.isInRule && !s.isInMixin && !s.isInContent then
    stopAt "@extend may only be used within style rules." (← spanFrom start)
  let found ← anyValue g false
  let isOptional ← scan '!'
  if isOptional then expectName "optional"
  requireEnd
  let span ← spanFrom start
  return .mk span (.inherit found span isOptional)

/-- A block outside of the rules that contain it. -/
def atRootRule (start : Nat) : Parser Statement := do
  if ← isAt '(' then
    let queryStart ← place
    skip
    skipGaps
    let direction ← g.term
    let names ← do
      if ← scan ':' then
        skipGaps
        pure [.text ": ", .term (← g.term)]
      else pure []
    expect ')'
    skipGaps
    let span ← spanFrom queryStart
    let query := .text "(" :: .term direction :: names ++ [.text ")"]
    let (body, _) ← g.block .statement
    statementFrom start (.atRoot (some (query, span)) body)
  else if ← isAtBlock then
    let (body, _) ← g.block .statement
    statementFrom start (.atRoot none body)
  else
    let rule ← styleRule g [] (← place)
    statementFrom start (.atRoot none [rule])

def mediaRule (start : Nat) : Parser Statement := do
  let queryStart ← place
  let query ← mediaQueries g
  let querySpan ← spanFrom queryStart
  let (body, _) ← g.block .statement
  statementFrom start (.media query querySpan body)

def supportsRule (start : Nat) : Parser Statement := do
  let condition ← g.condition
  skipGaps
  let (body, _) ← g.block .statement
  statementFrom start (.supports condition body)

/-- A rule that means nothing here. -/
def otherRule (start : Nat) (named : List Piece) : Parser Statement :=
  within (fun s => { s with isInAtRule := true }) do
    let value ← do
      if (← isAt '!') || (← isAtEnd) then pure none
      else pure (some (← anyValue g false))
    if ← isAtBlock then
      let (body, _) ← g.block .statement
      statementFrom start (.atRule named value (some body))
    else
      requireEnd
      statementFrom start (.atRule named value none)

/-- Whether an import is left to the program that shows the page. -/
def isPlainImport (url : Text) : Bool :=
  let url := url.map Char.toLower
  5 ≤ url.length && (".css".toList.isSuffixOf url || "//".toList.isPrefixOf url ||
    "http://".toList.isPrefixOf url || "https://".toList.isPrefixOf url)

/-- The text of a string in quotes without expressions. -/
def plainString : Parser Text := do
  match ← peek with
  | some c =>
    if c != '"' && c != '\'' then stop "Expected string."
    skip
    iterate (fun (found : Text) => do
      match ← peek with
      | none => stop ("Expected " ++ c.toString ++ ".")
      | some d =>
        if d = c then
          skip
          return .inr found.reverse
        else if isLineEnd d then stop ("Expected " ++ c.toString ++ ".")
        else if d = '\\' then return .inl ((← escapedChar) :: found)
        else
          skip
          return .inl (d :: found)) []
  | none => stop "Expected string."

/-- What the program that shows the page has to support for an import. -/
def importCondition : Parser Condition := do
  if ← scanName "not" then
    skipGaps
    return .negation (← g.conditionPart)
  if ← isAt '(' then return ← g.condition
  let before ← get
  if ← isAtPieces then
    let named ← piecesName g
    if ← scan '(' then
      let inner ← rawValue g true true true
      expect ')'
      return .function named inner
  set before
  let name ← g.term
  expect ':'
  supportedDeclaration g name

def importModifiers? : Parser (Option (List ImportModifier)) := do
  let isAtWord : Parser Bool := do return (← isAtPieces) || (← isAt '(')
  if !(← isAtWord) then return none
  let found ← iterate (fun (found : List ImportModifier) => do
    if !(← isAtWord) then return .inr found
    let found := if found.isEmpty then found else .text [.text " "] :: found
    if !(← isAtPieces) then return .inr (.text (← mediaQueries g) :: found)
    let word ← piecesName g
    let found := .text word :: found
    if !isWord word "and" && (← isAt '(') then
      skip
      let found ← do
        if isWord word "supports" then
          let condition ← importCondition g
          let (opening, ending) := match condition with
            | .declaration .. => ("", "")
            | _ => ("(", ")")
          pure (.text [.text ending] :: .supports condition :: .text [.text opening] :: found)
        else
          pure (.text (.text "(" :: (← rawValue g true true true) ++ [.text ")"]) :: found)
      expect ')'
      skipGaps
      return .inl found
    skipGaps
    if ← scan ',' then return .inr (.text (.text ", " :: (← mediaQueries g)) :: found)
    return .inl found) []
  return some found.reverse

def importItem : Parser ImportItem := do
  let start ← place
  match ← peek with
  | some c =>
    if c = 'u' || c = 'U' then
      let urlStart ← place
      expectName "url"
      let url ← match ← address? g "url" with
        | some found => pure found
        | none =>
          let given ← arguments g false false
          pure [.term (← termFrom urlStart (.call { space := none, name := "url" } given))]
      skipGaps
      return .plain url ((← importModifiers? g).getD [])
    else if c != '"' && c != '\'' && (← isIndented) then
      let url ← takeWhile fun d => d != ',' && d != ';' && !isLineEnd d
      if isPlainImport url then return .plain [.text ("\"" ++ String.ofList url ++ "\"")] []
      return .file url (← spanFrom start)
    else
      let before ← get
      let url ← plainString
      let raw : Text := before.rest.take ((← place) - start)
      skipGaps
      let modifiers ← importModifiers? g
      if isPlainImport url || modifiers.isSome then
        return .plain [.text (String.ofList raw)] (modifiers.getD [])
      return .file url (← spanFrom start)
  | none => stop "Expected string."

def importRule (start : Nat) : Parser Statement := do
  let items ← iterate (fun (found : List ImportItem) => do
    skipGaps
    let item ← importItem g
    skipGaps
    let s ← surroundings
    if let .file .. := item then
      if s.isInControl || s.isInMixin then
        let _ ← misplacedRule g start
    if ← scan ',' then return .inl (item :: found)
    return .inr (item :: found).reverse) []
  requireEnd
  statementFrom start (.importing items)

def moduleSettings (allowsDefault : Bool) : Parser (List Setting) := do
  if !(← scanName "with") then return []
  skipGaps
  expect '('
  let found ← iterate (fun (found : List Setting) => do
    skipGaps
    let start ← place
    let named ← variableName
    skipGaps
    expect ':'
    skipGaps
    let value ← g.item false
    let flagStart ← place
    let isDefault ← do
      if !allowsDefault then pure false
      else if ← scan '!' then
        if (← name) != "default" then stopAt "Invalid flag name." (← spanFrom flagStart)
        skipGaps
        pure true
      else pure false
    if found.any fun other => other.name == named then
      stopAt "The same variable may only be configured once." (← spanFrom start)
    let span := { value.span with start := (← get).origin + start }
    let found := ⟨named, value, isDefault, span⟩ :: found
    if !(← scan ',') then return .inr found.reverse
    skipGaps
    if ← isAtTerm then return .inl found
    return .inr found.reverse) []
  expect ')'
  return found

/-- The name that a module has if none is given: the last part of its address up to a point. -/
def defaultSpace (url : Text) : Text :=
  if "sass:".toList.isPrefixOf url then url.drop 5
  else
    let parts := (Text.splitOnChar '/' url).filter fun part => !part.isEmpty
    let last := parts.getLastD []
    let last := if last == "..".toList then [] else last
    (if last.head? == some '_' then last.drop 1 else last).takeWhile (· ≠ '.')

def isWholeName (text : Text) : Bool :=
  let whole : Parser Unit := do
    let _ ← name
    if (← peek).isSome then stop "Expected identifier."
  match whole { form := .braces, source := ⟨[], text, text.length⟩, rest := text } with
  | .ok _ => true
  | .error _ => false

/-- The name of a module that is used, or nothing if its members are used without one. -/
def moduleSpace (url : Text) (start : Nat) : Parser (Option String) := do
  if ← scanName "as" then
    skipGaps
    if ← scan '*' then return none else return some (← plainName)
  let space := defaultSpace url
  if !"sass:".toList.isPrefixOf url && !isWholeName space then
    stopAt ("The default namespace \"" ++ String.ofList space ++ "\" is not a valid Sass identifier." ++
      "\n\nRecommendation: add an \"as\" clause to define an explicit namespace.")
      (← spanFrom start)
  return some (dashed (String.ofList space))

def useRule (start : Nat) : Parser Statement := do
  let url ← plainString
  skipGaps
  let space ← moduleSpace url start
  skipGaps
  let settings ← moduleSettings g false
  requireEnd
  if !(← get).allowsUse then
    stopAt "@use rules must be written before any other rules." (← spanFrom start)
  statementFrom start (.useModule url space settings)

/-- Names of variables, functions and mixins. -/
def memberNames : Parser (List String) :=
  iterate (fun (found : List String) => do
    skipGaps
    let named ← if ← isAt '$' then do pure ("$" ++ (← variableName)) else plainName
    skipGaps
    if ← scan ',' then return .inl (named :: found)
    return .inr (named :: found).reverse) []

def forwardRule (start : Nat) : Parser Statement := do
  let url ← plainString
  skipGaps
  let opening ← do
    if ← scanName "as" then
      skipGaps
      let opening ← plainName
      expect '*'
      skipGaps
      pure opening
    else pure ""
  let selection : Selection ← do
    if ← scanName "show" then pure { opening, shown := some (← memberNames) }
    else if ← scanName "hide" then pure { opening, hidden := some (← memberNames) }
    else pure { opening }
  let settings ← moduleSettings g true
  requireEnd
  if !(← get).allowsUse then
    stopAt "@forward rules must be written before any other rules." (← spanFrom start)
  statementFrom start (.forward url selection settings)

/-- A rule that may stand in every kind of block, if it is one. -/
def controlRule? (named : String) (start : Nat) (kind : Child) : Parser (Option Statement) := do
  match named with
  | "debug" => return some (← valueRule g start (.note · false))
  | "warn" => return some (← valueRule g start (.note · true))
  | "error" => return some (← valueRule g start .stop)
  | "each" => return some (← eachRule g start kind)
  | "for" => return some (← forRule g start kind)
  | "if" => return some (← ifRule g start kind)
  | "while" => return some (← whileRule g start kind)
  | _ => return none

/-- Names of rules that a plain style sheet may not hold. -/
def richRuleNames : List String :=
  ["at-root", "content", "debug", "each", "error", "extend", "for", "function", "if", "include",
    "mixin", "return", "warn", "while"]

/-- A rule that begins with an at sign, in a plain style sheet. -/
def plainAtRule (start : Nat) (named : List Piece) : Parser Statement := do
  match Piece.plain? named with
  | some "import" => importRule g start
  | some "media" => mediaRule g start
  | some "supports" => supportsRule g start
  | some text =>
    if richRuleNames.contains text then
      let _ ← anyValue g false
      stopAt "This at-rule isn't allowed in plain CSS." (← spanFrom start)
    otherRule g start named
  | none => otherRule g start named

/-- A rule that begins with an at sign, in a block of statements. -/
def atRule : Parser Statement := do
  let start ← place
  expect '@'
  let named ← piecesName g
  skipGaps
  let allowedUse := (← get).allowsUse
  modify fun r => { r with allowsUse := false }
  if ← isPlain then return ← plainAtRule g start named
  match Piece.plain? named with
  | none => otherRule g start named
  | some text =>
    if let some statement ← controlRule? g text start .statement then return statement
    match text with
    | "at-root" => atRootRule g start
    | "content" => contentRule g start
    | "else" | "return" => misplacedRule g start
    | "extend" => extendRule g start
    | "forward" =>
      modify fun r => { r with allowsUse := allowedUse }
      forwardRule g start
    | "function" => functionRule g start
    | "import" => importRule g start
    | "include" => includeRule g start
    | "media" => mediaRule g start
    | "mixin" => mixinRule g start
    | "supports" => supportsRule g start
    | "use" =>
      modify fun r => { r with allowsUse := allowedUse }
      useRule g start
    | _ => otherRule g start named

/-- A rule that begins with an at sign, in another kind of block. -/
def innerAtRule (kind : Child) : Parser Statement := do
  let start ← place
  expect '@'
  let named ← plainName
  skipGaps
  if let some statement ← controlRule? g named start kind then return statement
  match named, kind with
  | "return", .function => valueRule g start .result
  | "content", .declaration => contentRule g start
  | "include", .declaration => includeRule g start
  | _, _ => misplacedRule g start

end ComponentBundle.Style.Parser
