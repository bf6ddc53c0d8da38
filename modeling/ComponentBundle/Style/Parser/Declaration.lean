import ComponentBundle.Style.Parser.Term

/-!
# Parsers of variables, properties and rules

What begins with a name in a rule may be a variable of a module, a property, or another rule. Often
only the end of the statement tells which of them it is.
-/
namespace ComponentBundle.Style.Parser

variable (g : Grammar)

def statementFrom (start : Nat) (node : StatementNode) : Parser Statement := do
  return .mk (← spanFrom start) node

/-- The marks behind the value of a variable: whether it is a default, and whether it is global. -/
def variableFlags (space : Option String) : Parser (Bool × Bool) :=
  iterate (fun (isDefault, isGlobal) => do
    let start ← place
    if !(← scan '!') then return .inr (isDefault, isGlobal)
    match ← name with
    | "default" =>
      skipGaps
      return .inl (true, isGlobal)
    | "global" =>
      if space.isSome then
        stopAt "!global isn't allowed for variables in other modules." (← spanFrom start)
      skipGaps
      return .inl (isDefault, true)
    | _ => stopAt "Invalid flag name." (← spanFrom start)) (false, false)

/-- A value for a variable, perhaps of a module that has been read. -/
def assignment (space : Option (String × Span)) (start : Nat) : Parser Statement := do
  let found ← variableName
  if space.isSome then requirePublic found start
  if ← isPlain then stopAt "Sass variables aren't allowed in plain CSS." (← spanFrom start)
  skipGaps
  expect ':'
  skipGaps
  let value ← g.term
  let (isDefault, isGlobal) ← variableFlags (space.map (·.1))
  requireEnd
  let reference : Reference :=
    { space := space.map fun (name, _) => dashed name, name := found, spaceSpan := space.map (·.2) }
  statementFrom start (.assign reference value isDefault isGlobal)

/-- A value for a variable, or the beginning of something else. -/
def assignmentOrName : Parser (Statement ⊕ List Piece) := do
  let start ← place
  if !(← isAtName) then return .inr (← piecesName g)
  let found ← name
  let span ← spanFrom start
  if ← isAtText ".$".toList then
    skip
    return .inl (← assignment g (some (found, span)) start)
  return .inr (← piecesBody g [.text found])

def selector : Parser (List Piece) := do
  if ← isIndented then
    iterate (fun (found : List Piece) => do
      let found := found ++ (← anyValue g true) ++ [.text "\n"]
      let ending : Text := (Piece.trailing found).toList.reverse.dropWhile isGap
      if ending.head? == some ',' then
        if ← scanLineEnd then return .inl found
      return .inr (Piece.joined found)) []
  else anyValue g false

/-- A rule, whose selector may have been begun. -/
def styleRule (begun : List Piece) (start : Nat) : Parser Statement := do
  modify fun r => { r with allowsUse := false }
  let found := Piece.joined (begun ++ (← selector g))
  if found.isEmpty then expected "\"\x7d\""
  let span ← spanFrom start
  let (body, bodySpan) ← within (fun s => { s with isInRule := true }) (g.block .statement)
  return .mk (span.merge bodySpan) (.rule found span body)

/-- The value of a property whose name begins with two dashes. -/
def customProperty (start : Nat) (named : List Piece) : Parser Statement := do
  let valueStart ← place
  let value ← rawValue g false false true
  let value ← termFrom valueStart (.string value false)
  requireEnd
  statementFrom start (.property named (some value) [] true)

def nestedProperty (start : Nat) (named : List Piece) (value : Option Term) :
    Parser Statement := do
  let (body, _) ← g.block .declaration
  statementFrom start (.property named value body false)

def leadingMark : Parser (List Piece) := do
  match ← peek with
  | some c =>
    if c = ':' || c = '*' || c = '.' || (c = '#' && !(← isAtPieceFrom 0)) then
      skip
      let gap ← rawText skipGaps
      return [.text (c.toString ++ gap)]
    else return []
  | none => return []

def requireDeclarationEnd (couldBeSelector : Bool) : Parser Unit := do
  if ← isAtBlock then
    if couldBeSelector then requireEnd
  else if !(← isAtEnd) then requireEnd

/-- The value of a property, or the rest of the text in front of a block. -/
def valueOrSelector (named middle : List Piece) (couldBeSelector : Bool) (start : Nat) :
    Parser (Statement ⊕ List Piece) := do
  match ← catching (do let v ← wholeTerm g; requireDeclarationEnd couldBeSelector; return v) with
  | .inl value =>
    if ← isAtBlock then return .inl (← nestedProperty g start named (some value))
    requireEnd
    return .inl (← statementFrom start (.property named (some value) [] false))
  | .inr fault =>
    if !couldBeSelector then throw fault
    let rest ← anyValue g false
    if !(← isIndented) && (← isAt ';') then throw fault
    return .inr (named ++ middle ++ rest)

def declarationOrSelector : Parser (Statement ⊕ List Piece) := do
  let start ← place
  let mark ← leadingMark
  if !(← isAtPieces) then return .inr mark
  let begun ← if mark.isEmpty then assignmentOrName g else pure (.inr (← piecesName g))
  match begun with
  | .inl statement => return .inl statement
  | .inr found =>
    let named := Piece.joined (mark ++ found)
    let comment ← if ← isAtText "/*".toList then rawText skipBlockComment else pure ""
    let named := Piece.joined (named ++ [.text comment])
    let gap ← rawText skipGaps
    if !(← scan ':') then
      return .inr (if gap.isEmpty then named else named ++ [.text " "])
    let middle : List Piece := [.text (gap ++ ":")]
    if (Piece.initial named).startsWith "--" then
      return .inl (← customProperty g start named)
    if ← scan ':' then return .inr (named ++ middle ++ [.text ":"])
    if (← isIndented) && (← isAtPieces) then return .inr (named ++ middle)
    let gap ← rawText skipGaps
    if ← isAtBlock then return .inl (← nestedProperty g start named none)
    let couldBeSelector := gap.isEmpty && (← isAtPieces)
    valueOrSelector g named (middle ++ [.text gap]) couldBeSelector start

/-- Reads the backslash in front of an indented rule that begins like something else. -/
def scanEscapedRule : Parser Bool := do
  if ← isIndented then scan '\\' else return false

def declarationOrRule : Parser Statement := do
  let start ← place
  if ← scanEscapedRule then return ← styleRule g [] (← place)
  match ← declarationOrSelector g with
  | .inl statement => return statement
  | .inr begun => styleRule g begun start

def assignmentOrRule : Parser Statement := do
  if ← isPlain then return ← styleRule g [] (← place)
  if ← scanEscapedRule then return ← styleRule g [] (← place)
  if !(← isAtName) then return ← styleRule g [] (← place)
  let start ← place
  match ← assignmentOrName g with
  | .inl statement => return statement
  | .inr begun => styleRule g begun start

def propertyOrAssignment (allowsCustom : Bool) : Parser Statement := do
  let start ← place
  let mark ← leadingMark
  let begun ← if mark.isEmpty then
      if ← isPlain then pure (.inr (← piecesName g)) else assignmentOrName g
    else pure (.inr (← piecesName g))
  match begun with
  | .inl statement => return statement
  | .inr found =>
    let named := Piece.joined (mark ++ found)
    skipGaps
    expect ':'
    if allowsCustom && (Piece.initial named).startsWith "--" then
      return ← customProperty g start named
    skipGaps
    if ← isAtBlock then
      if ← isPlain then stop "Nested declarations aren't allowed in plain CSS."
      return ← nestedProperty g start named none
    let value ← wholeTerm g
    if ← isAtBlock then
      if ← isPlain then stop "Nested declarations aren't allowed in plain CSS."
      nestedProperty g start named (some value)
    else
      requireEnd
      statementFrom start (.property named (some value) [] false)

/-- Skips a comment up to the end of the line; in the indented notation also the lines below it. -/
def lineComment : Parser Unit := do
  let outer := (← get).width
  let start ← place
  skipLineComment
  if ← isPlain then stopAt "Silent comments aren't allowed in plain CSS." (← spanFrom start)
  if !(← isIndented) then skipBlanks
  else
    iterate (fun _ => do
      if (← nextWidth) ≤ outer then return .inr ()
      let _ ← readWidth
      skipLineComment
      return .inl ()) ()

def bracedComment : Parser (List Piece) := do
  skipMany 2
  iterate (fun (found : List Piece) => do
    match ← peek with
    | none => expected "more input"
    | some '#' => return .inl ((← pieceOrMark g) :: found)
    | some '*' =>
      skip
      if ← scan '/' then return .inr (Piece.joined (.text "*/" :: found).reverse)
      return .inl (.text "*" :: found)
    | some '\r' =>
      skip
      if ← isAt '\n' then return .inl found
      return .inl (.text "\n" :: found)
    | some c =>
      skip
      return .inl (.text (if c = '\x0c' then "\n" else c.toString) :: found)) [.text "/*"]

/-- The rest of a line of a comment, and whether the comment is closed in it. -/
def commentLine : Parser (List Piece × Bool) :=
  iterate (fun (found : List Piece) => do
    match ← peek with
    | none => return .inr (found.reverse, false)
    | some '#' => return .inl ((← pieceOrMark g) :: found)
    | some c =>
      if isLineEnd c then return .inr (found.reverse, false)
      skip
      if c = '*' then
        if ← scan '/' then return .inr ((.text "*/" :: found).reverse, true)
      return .inl (.text c.toString :: found)) []

def isAtBlankLine : Parser Bool := do
  match (← get).rest with
  | c :: d :: _ => return isLineEnd c && isLineEnd d
  | _ => return false

def emptyCommentLines : Parser (List Piece) :=
  iterate (fun (found : List Piece) => do
    if ← isAtBlankLine then
      skip
      modify fun r => { r with next? := none }
      return .inl (.text "\n *" :: found)
    return .inr found) []

/-- A comment that is kept, whose lines are indented below its first one. -/
def indentedComment : Parser (List Piece) := do
  skipMany 2
  let outer := (← get).width
  iterate (fun (isFirst, found) => do
    let opening ← do
      if isFirst then
        let gap ← rawText skipBlanks
        if (← peek).any isLineEnd then
          let _ ← readWidth
          pure " "
        else pure gap
      else pure "\n * "
    let margin := String.ofList (List.replicate ((← get).width - outer - 3) ' ')
    let (line, isClosed) ← commentLine g
    let found := found ++ .text (opening ++ margin) :: line
    if isClosed then
      skipGaps
      return .inr (Piece.joined found)
    if (← nextWidth) ≤ outer then
      let ending : Text := (Piece.trailing found).toList.reverse.dropWhile isGap
      let closing : List Piece := if ['/', '*'].isPrefixOf ending then [] else [.text " */"]
      return .inr (Piece.joined (found ++ closing))
    let found := found ++ (← emptyCommentLines)
    let _ ← readWidth
    return .inl (false, found)) ((true, [.text "/*"]) : Bool × List Piece)

def comment : Parser Statement := do
  let start ← place
  if ← isIndented then
    let found ← indentedComment g
    statementFrom start (.comment found)
  else
    let found ← bracedComment g
    let statement ← statementFrom start (.comment found)
    skipBlanks
    return statement

end ComponentBundle.Style.Parser
