import ComponentBundle.Style.Parser.Term

/-!
# Parsers of conditions

What a rule asks of the medium that shows a page and of the program that shows it.
-/
namespace ComponentBundle.Style.Parser

variable (g : Grammar)

def requireGap : Parser Unit := do
  match ← peek with
  | some c =>
    if isGap c then skipGaps
    else if !(← scanComment) then stop "Expected whitespace."
    else skipGaps
  | none => stop "Expected whitespace."

/-- A condition in parentheses, or an expression in its place. -/
def featureOrPiece : Parser (List Piece) := do
  if ← isAtPieceFrom 0 then return [← piece g] else g.feature

def featureSequence (word : String) : Parser (List Piece) :=
  iterate (fun (found : List Piece) => do
    let found := found ++ (← featureOrPiece g)
    skipGaps
    if !(← scanName word) then return .inr found
    requireGap
    return .inl (found ++ [.text (" " ++ word ++ " ")])) []

/-- The words behind a first condition in parentheses. -/
def featureTail (first : List Piece) : Parser (List Piece) := do
  skipGaps
  if ← scanName "and" then
    requireGap
    return first ++ .text " and " :: (← featureSequence g "and")
  else if ← scanName "or" then
    requireGap
    return first ++ .text " or " :: (← featureSequence g "or")
  else return first

def comparison (c : Char) : Parser (List Piece) := do
  skip
  let orEqual ← if c = '=' then pure false else scan '='
  skipGaps
  let value ← g.compared
  return [.text (" " ++ c.toString ++ (if orEqual then "= " else " ")), .term value]

def featureRule : Parser (List Piece) := do
  if !(← scan '(') then expected "media condition in parentheses"
  skipGaps
  let inner ← do
    if ← isAt '(' then featureTail g (← g.feature)
    else if ← scanName "not" then
      requireGap
      pure (.text "not " :: (← featureOrPiece g))
    else
      let name ← g.compared
      if ← scan ':' then
        skipGaps
        let value ← g.term
        pure [.term name, .text ": ", .term value]
      else match ← peek with
        | some c =>
          if c = '<' || c = '>' || c = '=' then
            let first ← comparison g c
            if c != '=' && (← isAt c) then pure (.term name :: first ++ (← comparison g c))
            else pure (.term name :: first)
          else pure [.term name]
        | none => pure [.term name]
  expect ')'
  skipGaps
  return .text "(" :: inner ++ [.text ")"]

def isWord (pieces : List Piece) (word : String) : Bool :=
  match Piece.plain? pieces with
  | some text => text.toLower == word
  | none => false

def mediaQuery : Parser (List Piece) := do
  if ← isAt '(' then return ← featureTail g (← g.feature)
  let first ← piecesName g
  if isWord first "not" then
    requireGap
    if !(← isAtPieces) then return .text "not " :: (← featureOrPiece g)
  skipGaps
  if !(← isAtPieces) then return first
  let second ← piecesName g
  let words ←
    if isWord second "and" then
      requireGap
      pure first
    else
      skipGaps
      let words := first ++ .text " " :: second
      if ← scanName "and" then
        requireGap
        pure words
      else return words
  if ← scanName "not" then
    requireGap
    return words ++ .text " and not " :: (← featureOrPiece g)
  return words ++ .text " and " :: (← featureSequence g "and")

def mediaQueries : Parser (List Piece) :=
  iterate (fun (found : List Piece) => do
    skipGaps
    let found := found ++ (← mediaQuery g)
    skipGaps
    if ← scan ',' then return .inl (found ++ [.text ", "])
    return .inr (Piece.joined found)) []

/-- A declaration that has to be supported, behind its name and the colon. -/
def supportedDeclaration (name : Term) : Parser Condition := do
  let isCustom := match name.node with
    | .string pieces false => (Piece.initial pieces).startsWith "--"
    | _ => false
  if isCustom then
    let start ← place
    let raw ← rawValue g false false true
    return .declaration name (← termFrom start (.string raw false))
  else
    skipGaps
    return .declaration name (← g.term)

/-- A part of the condition of an `@supports` rule. -/
def conditionPartRule : Parser Condition := do
  if ← isAtPieces then
    let found ← piecesName g
    if isWord found "not" then stop "\"not\" is not a valid identifier here."
    if ← scan '(' then
      let inner ← rawValue g true true true
      expect ')'
      return .function found inner
    match found with
    | [.term value] => return .piece value
    | _ => stop "Expected @supports condition."
  expect '('
  skipGaps
  if ← scanName "not" then
    skipGaps
    let inner ← g.conditionPart
    expect ')'
    return .negation inner
  if ← isAt '(' then
    let inner ← g.condition
    expect ')'
    return inner
  let before ← get
  match ← catching (do let name ← g.term; expect ':'; return name) with
  | .inl name =>
    let found ← supportedDeclaration g name
    expect ')'
    return found
  | .inr fault =>
    set before
    let found ← piecesName g
    if let some operation ← operationOf? found then
      expect ')'
      return operation
    let inner ← rawValue g true true false
    if ← isAt ':' then throw fault
    expect ')'
    return .anything (Piece.joined (found ++ inner))
where
  /-- The conditions behind an expression, with one word between them. -/
  operationOf? (found : List Piece) : Parser (Option Condition) := do
    let [.term value] := found | return none
    let before ← get
    skipGaps
    iterate (fun (operator, left) => do
      if !(← isAtName) then return .inr left
      let operator ← match operator with
        | some operator =>
          expectName operator
          pure (some operator)
        | none =>
          if ← scanName "and" then pure (some "and")
          else if ← scanName "or" then pure (some "or")
          else pure none
      let some operator := operator
        | set before
          return .inr none
      skipGaps
      let right ← g.conditionPart
      skipGaps
      let left := match left with
        | some left => left
        | none => .piece value
      return .inl (some operator, some (.both operator left right)))
      ((none, none) : Option String × Option Condition)

/-- The condition of an `@supports` rule. -/
def conditionRule : Parser Condition := do
  if ← scanName "not" then
    skipGaps
    return .negation (← g.conditionPart)
  let first ← g.conditionPart
  skipGaps
  iterate (fun (operator, left) => do
    if !(← isAtName) then return .inr left
    let operator ← match operator with
      | some operator =>
        expectName operator
        pure operator
      | none =>
        if ← scanName "or" then pure "or"
        else
          expectName "and"
          pure "and"
    skipGaps
    let right ← g.conditionPart
    skipGaps
    return .inl (some operator, .both operator left right))
    ((none, first) : Option String × Condition)

end ComponentBundle.Style.Parser
