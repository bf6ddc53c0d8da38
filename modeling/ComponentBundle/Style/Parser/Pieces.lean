import ComponentBundle.Style.Parser.Grammar

/-!
# Texts that hold expressions

Names, strings and whatever else may have expressions between its characters.
-/
namespace ComponentBundle.Style.Parser

variable (g : Grammar)

def piece : Parser Piece := do
  expectText "#\x7b"
  skipGaps
  let value ← g.term
  expect '\x7d'
  if ← isPlain then stopAt "Interpolation isn't allowed in plain CSS." value.span
  return .term value

/-- An expression or the number sign that is at hand. -/
def pieceOrMark : Parser Piece := do
  if ← isAtPieceFrom 0 then piece g
  else
    skip
    return .text "#"

/-- The rest of a name that may hold expressions. -/
def piecesBody (found : List Piece) : Parser (List Piece) :=
  iterate (fun (found : List Piece) => do
    match ← peek with
    | none => return .inr (Piece.joined found.reverse)
    | some c =>
      if isNamePart c then
        skip
        return .inl (.text c.toString :: found)
      else if c = '\\' then return .inl (.text (← escape false) :: found)
      else if ← isAtPieceFrom 0 then return .inl ((← piece g) :: found)
      else return .inr (Piece.joined found.reverse)) found

def piecesName : Parser (List Piece) := do
  let dash := if ← scan '-' then "-" else ""
  if dash = "-" && (← scan '-') then return ← piecesBody g [.text "--"]
  match ← peek with
  | some '\\' =>
    let first ← escape true
    piecesBody g [.text first, .text dash]
  | some c =>
    if isNameStart c then
      skip
      piecesBody g [.text c.toString, .text dash]
    else if ← isAtPieceFrom 0 then
      let first ← piece g
      piecesBody g [first, .text dash]
    else stop "Expected identifier."
  | none => stop "Expected identifier."

def string : Parser (List Piece) := do
  let quote ← match ← peek with
    | some c => if c = '"' || c = '\'' then pure c else stop "Expected string."
    | none => stop "Expected string."
  skip
  iterate (fun (found : List Piece) => do
    match ← peek with
    | none => stop ("Expected " ++ toString quote ++ ".")
    | some c =>
      if c = quote then
        skip
        return .inr (Piece.joined found.reverse)
      else if isLineEnd c then stop ("Expected " ++ toString quote ++ ".")
      else if c = '\\' then
        match ← peekAt 1 with
        | none =>
          skip
          return .inl found
        | some d =>
          if isLineEnd d then
            skipMany 2
            if d = '\r' then
              let _ ← scan '\n'
            return .inl found
          else return .inl (.text (← escapedChar).toString :: found)
      else if c = '#' then return .inl ((← pieceOrMark g) :: found)
      else
        skip
        return .inl (.text c.toString :: found)) []

def quotedChar (quote : Char) (c : Char) : String :=
  if c = quote || c = '\\' then "\\" ++ c.toString
  else if c.toNat ≤ 0x1F then "\\" ++ String.ofList (Nat.toDigits 16 c.toNat) ++ " "
  else c.toString

/-- A string in quotes with its quotes, as it is read again later. -/
def requotedString : Parser (List Piece) := do
  let found ← string g
  let holds (c : Char) := found.any fun
    | .text value => value.contains c
    | .term _ => false
  let quote := if holds '"' && !holds '\'' then '\'' else '"'
  let inner := found.map fun
    | .text value => .text (String.join (value.toList.map (quotedChar quote)))
    | other => other
  return Piece.joined (.text quote.toString :: inner ++ [.text quote.toString])

/-- The address in parentheses behind `url`, unless it is an expression. -/
def address? (name : String) : Parser (Option (List Piece)) := do
  let before ← get
  if !(← scan '(') then return none
  skipBlanks
  let found ← iterate (fun (found : List Piece) => do
    match ← peek with
    | none => return .inr none
    | some c =>
      if c = '\\' then return .inl (.text (← escape false) :: found)
      else if c = '!' || c = '%' || c = '&' || ('*' ≤ c && c ≤ '~') || 128 ≤ c.toNat then
        skip
        return .inl (.text c.toString :: found)
      else if c = '#' then return .inl ((← pieceOrMark g) :: found)
      else if isGap c then
        skipBlanks
        if ← isAt ')' then return .inl found else return .inr none
      else if c = ')' then
        skip
        return .inr (some (Piece.joined (.text ")" :: found).reverse))
      else return .inr none) [.text (name ++ "(")]
  if found.isNone then set before
  return found

def addressOrLetter (c : Char) : Parser (List Piece) := do
  let before ← get
  if ← scanName "url" then
    if let some found ← address? g "url" then return found
    set before
  skip
  return [.text c.toString]

def nameOrChar (c : Char) : Parser Piece := do
  if ← isAtName then return .text (← name)
  skip
  return .text c.toString

/-- Whatever stands in front of a block or the end of a statement; it is read again later. -/
def anyValue (omitsComments : Bool) : Parser (List Piece) := do
  let indented ← isIndented
  iterate (fun (found : List Piece) => do
    match ← peek with
    | none => return .inr (Piece.joined found.reverse)
    | some c =>
      match c with
      | '\\' =>
        skip
        let next ← peek
        skip
        return .inl (.text (String.ofList ('\\' :: next.toList)) :: found)
      | '"' | '\'' => return .inl ((← requotedString g).reverse ++ found)
      | '/' =>
        let before ← get
        if ← scanComment then
          if omitsComments then return .inl found
          let read : Text := before.rest.take ((← place) - before.place)
          return .inl (.text (String.ofList read) :: found)
        skip
        return .inl (.text "/" :: found)
      | '#' =>
        if ← isAtPieceFrom 0 then return .inl ((← piecesName g).reverse ++ found)
        skip
        return .inl (.text "#" :: found)
      | '\n' | '\r' | '\x0c' =>
        if indented then return .inr (Piece.joined found.reverse)
        skip
        return .inl (.text c.toString :: found)
      | '!' | ';' | '\x7b' | '\x7d' => return .inr (Piece.joined found.reverse)
      | 'u' | 'U' => return .inl ((← addressOrLetter g c).reverse ++ found)
      | _ => return .inl ((← nameOrChar c) :: found)) []

/-- What a `rawValue` has read. -/
structure RawValue where
  found : List Piece := []
  /-- The brackets that have to be closed, the last one first. -/
  closers : List Char := []
  wroteLineEnd : Bool := false

def RawValue.add (raw : RawValue) (pieces : List Piece) : RawValue :=
  { raw with found := pieces.reverse ++ raw.found, wroteLineEnd := false }

/-- A value that is kept as it is, with its brackets closed. -/
def rawValue (allowsSemicolon allowsEmpty allowsColon : Bool) : Parser (List Piece) := do
  let indented ← isIndented
  let raw ← iterate (fun (raw : RawValue) => do
    match ← peek with
    | none => return .inr raw
    | some c =>
      match c with
      | '\\' => return .inl (raw.add [.text (← escape true)])
      | '"' | '\'' => return .inl (raw.add (← requotedString g))
      | '/' =>
        if (← peekAt 1) == some '*' then
          return .inl (raw.add [.text (← rawText skipBlockComment)])
        skip
        return .inl (raw.add [.text "/"])
      | '#' =>
        if ← isAtPieceFrom 0 then return .inl (raw.add (← piecesName g))
        skip
        return .inl (raw.add [.text "#"])
      | ' ' | '\t' =>
        let next ← peekAt 1
        skip
        if raw.wroteLineEnd || !(next.any isGap) then
          return .inl { raw with found := .text c.toString :: raw.found }
        return .inl raw
      | '\n' | '\r' | '\x0c' =>
        if indented then return .inr raw
        let last := (← get).last
        skip
        let found := if isLineEnd last then raw.found else .text "\n" :: raw.found
        return .inl { raw with found, wroteLineEnd := true }
      | '(' | '\x7b' | '[' =>
        skip
        let closer := if c = '(' then ')' else if c = '[' then ']' else '\x7d'
        return .inl { raw.add [.text c.toString] with closers := closer :: raw.closers }
      | ')' | '\x7d' | ']' =>
        match raw.closers with
        | [] => return .inr raw
        | closer :: closers =>
          expect closer
          return .inl { raw.add [.text c.toString] with closers }
      | ';' =>
        if !allowsSemicolon && raw.closers.isEmpty then return .inr raw
        skip
        return .inl (raw.add [.text ";"])
      | ':' =>
        if !allowsColon && raw.closers.isEmpty then return .inr raw
        skip
        return .inl (raw.add [.text ":"])
      | 'u' | 'U' => return .inl (raw.add (← addressOrLetter g c))
      | _ => return .inl (raw.add [← nameOrChar c])) {}
  if let some closer := raw.closers.head? then expect closer
  let pieces := Piece.joined raw.found.reverse
  if !allowsEmpty && pieces.isEmpty then stop "Expected token."
  return pieces

end ComponentBundle.Style.Parser
