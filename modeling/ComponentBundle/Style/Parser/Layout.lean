import ComponentBundle.Style.Parser.Reader

/-!
# Layout of styles

Where statements end and blocks begin, in braces or by indentation. The blanks in front of the next
line are looked at before the line is read, since they tell what the line belongs to.
-/
namespace ComponentBundle.Style.Parser

/-- Reads the end of a line if it is at hand. -/
def scanLineEnd : Parser Bool := do
  match ← peek with
  | some c => if isLineEnd c then skip; return true else return false
  | none => return false

/-- Stops if lines are not all indented with the same blanks. -/
def requireSameBlanks (hasTab hasSpace : Bool) (start : Nat) : Parser Unit := do
  let usesSpaces := (← get).usesSpaces
  if hasTab then
    if hasSpace then stopAt "Tabs and spaces may not be mixed." (← spanFrom start)
    if usesSpaces == some true then stopAt "Expected spaces, was tabs." (← spanFrom start)
  else if hasSpace && usesSpaces == some false then
    stopAt "Expected tabs, was spaces." (← spanFrom start)

/-- Goes to the first line that is not blank. Nothing if there is none. -/
def nextBlanks : Parser (Option Text) := do
  iterate (fun _ => do
    let blanks ← takeWhile fun c => c = ' ' || c = '\t'
    if (← peek).isNone then return .inr none
    if ← scanLineEnd then return .inl () else return .inr (some blanks)) ()

/-- How far the next line is indented. -/
def nextWidth : Parser Nat := do
  let before ← get
  if let some found := before.next? then return found.width
  if before.rest.isEmpty then
    set { before with next? := some ⟨0, [], before.place, before.last⟩ }
    return 0
  if !(← scanLineEnd) then stop "Expected newline."
  let blanks ← nextBlanks
  let after ← get
  match blanks with
  | none =>
    set { before with next? := some ⟨0, after.rest, after.place, after.last⟩ }
    return 0
  | some blanks =>
    requireSameBlanks (blanks.contains '\t') (blanks.contains ' ') before.place
    let uses := if blanks.isEmpty then before.usesSpaces
      else some (before.usesSpaces.getD (blanks.contains ' '))
    set { before with
      next? := some ⟨blanks.length, after.rest, after.place, after.last⟩
      usesSpaces := uses }
    return blanks.length

def readWidth : Parser Nat := do
  let width ← nextWidth
  modify fun r =>
    match r.next? with
    | some found =>
      { r with width, next? := none, rest := found.rest, place := found.place, last := found.last }
    | none => { r with width }
  return width

def isAtEnd : Parser Bool := do
  match ← peek with
  | none => return true
  | some c =>
    if ← isIndented then return isLineEnd c
    else return c = ';' || c = '}' || c = '\x7b'

def isAtBlock : Parser Bool := do
  if ← isIndented then
    if ← isAtEnd then return (← nextWidth) > (← get).width else return false
  else isAt '\x7b'

def requireEnd : Parser Unit := do
  if ← isIndented then
    if !(← isAtEnd) then
      if !(← scanLineEnd) then
        if ← isAt ';' then stop "semicolons aren't allowed in the indented syntax."
        stop "expected newline."
    if (← nextWidth) > (← get).width then stop "Nothing may be indented here"
  else
    skipBlanks
    match ← peek with
    | none | some ';' | some '}' => return ()
    | some _ => expect ';'

/-- Whether `@else` follows a block that stands in a line so far indented; reads it. -/
def scanElse (width : Nat) : Parser Bool := do
  let before ← get
  if ← isIndented then
    if (← nextWidth) != width then return false
    let before ← get
    let _ ← readWidth
    if ← scan '@' then
      if ← scanElseName then return true
    set before
    return false
  else
    skipGaps
    if ← scan '@' then
      if ← scanElseName then return true
    set before
    return false
where
  /-- Reads `else`, also in front of `if` in one word. -/
  scanElseName : Parser Bool := do
    let before ← get
    if !(← isAtName) then return false
    match ← attempt name with
    | some "else" => return true
    | some "elseif" =>
      set before
      skipMany 4
      return true
    | _ =>
      set before
      return false

def indentedBlock {α : Type} (child : Parser (Option α)) : Parser (List α) := do
  let outer := (← get).width
  iterate (fun (found : Option Nat × List α) => do
    if (← nextWidth) ≤ outer then return .inr found.2.reverse
    let width ← readWidth
    let expectedWidth := found.1.getD width
    if expectedWidth != width then
      stop ("Inconsistent indentation, expected " ++ toString expectedWidth ++ " spaces.")
    match ← child with
    | some item => return .inl (some expectedWidth, item :: found.2)
    | none => return .inl (some expectedWidth, found.2)) (none, [])

def bracedBlock {α : Type} (child : Parser (Option α)) : Parser (List α) := do
  expect '\x7b'
  skipBlanks
  iterate (fun (found : List α) => do
    match ← peek with
    | none => expected "\"\x7d\""
    | some ';' =>
      skip
      skipBlanks
      return .inl found
    | some '}' =>
      skip
      return .inr found.reverse
    | some _ =>
      match ← child with
      | some item => return .inl (item :: found)
      | none => return .inl found) []

/-- The statements of a block, and the span of the block. -/
def block {α : Type} (child : Parser (Option α)) : Parser (List α × Span) := do
  let start ← place
  let items ← if ← isIndented then indentedBlock child else bracedBlock child
  let span ← spanFrom start
  skipBlanks
  return (items, span)

def sheet {α : Type} (child : Parser (Option α)) : Parser (List α) := do
  if ← isIndented then
    if (← isAt ' ') || (← isAt '\t') then
      stop "Indenting at the beginning of the document is illegal."
  else skipBlanks
  let indented ← isIndented
  iterate (fun (found : List α) => do
    if (← peek).isNone then return .inr found.reverse
    if !indented && (← isAt ';') then
      skip
      skipBlanks
      return .inl found
    let item ← child
    if indented then
      let _ ← readWidth
    match item with
    | some item => return .inl (item :: found)
    | none => return .inl found) []

end ComponentBundle.Style.Parser
