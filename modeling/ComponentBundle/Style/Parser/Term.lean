import ComponentBundle.Style.Parser.Pieces

/-!
# Parsers of expressions

Values with spaces between them are a list, and so are values with commas between them; operators
bind more strongly than both. A quotient of numbers may be meant as it is written, so a reader keeps
account of whether it may be.
-/
namespace ComponentBundle.Style.Parser

variable (g : Grammar)

def termFrom (start : Nat) (node : TermNode) : Parser Term := do
  return .mk (← spanFrom start) node

def plainTerm (start : Nat) (text : String) : Parser Term :=
  termFrom start (.string [.text text] false)

def isAtTerm : Parser Bool := do
  match ← peek with
  | none => return false
  | some '.' => return (← peekAt 1) != some '.'
  | some '!' =>
    match ← peekAt 1 with
    | none | some 'i' | some 'I' => return true
    | some c => return isGap c
  | some c => return "(/['\"#+-\\$&%".contains c || isNameStart c || c.isDigit

/-- The digits behind the point of a number. -/
def fraction (allowsNone : Bool) : Parser Text := do
  if !(← isAt '.') then return []
  match ← peekAt 1 with
  | some d =>
    if d.isDigit then
      skip
      takeWhile Char.isDigit
    else if allowsNone then return []
    else
      skip
      stop "Expected digit."
  | none => if allowsNone then return [] else stop "Expected digit."

/-- The power of ten that a number is multiplied with. -/
def exponent : Parser Int := do
  match ← peek with
  | some 'e' | some 'E' =>
    match ← peekAt 1 with
    | some c =>
      if c.isDigit then
        skip
        return Int.ofNat ((← takeWhile Char.isDigit).foldl (fun n c => n * 10 + (c.toNat - 48)) 0)
      else if c = '+' || c = '-' then
        skipMany 2
        let digits ← takeWhile Char.isDigit
        if digits.isEmpty then stop "Expected digit."
        let n := digits.foldl (fun n c => n * 10 + (c.toNat - 48)) 0
        return if c = '-' then -Int.ofNat n else Int.ofNat n
      else return 0
    | none => return 0
  | _ => return 0

def number : Parser Term := do
  let start ← place
  let isNegative ← scan '-'
  if !isNegative then
    let _ ← scan '+'
  let whole ← takeWhile Char.isDigit
  let digits ← fraction (!whole.isEmpty)
  if whole.isEmpty && digits.isEmpty then stop "Expected digit."
  let power ← exponent
  let n := (whole ++ digits).foldl (fun n c => n * 10 + (c.toNat - 48)) 0
  let value := floatOfDecimal ⟨n, power - digits.length⟩
  let value := if isNegative then -value else value
  let unit ← do
    if ← scan '%' then pure "%"
    else if (← isAtName) && !((← isAt '-') && (← peekAt 1) == some '-') then nameOf true
    else pure ""
  termFrom start (.number ⟨value, if unit.isEmpty then [] else [usualUnit unit], []⟩)

/-- A color in hexadecimal digits behind the number sign. -/
def hexColor (start : Nat) : Parser Term := do
  let found : Text := ((← get).rest.take 8).takeWhile fun c => (hexValue? c).isSome
  let count := match found.length with
    | 0 | 1 | 2 | 3 => 3
    | 4 => 4
    | 5 | 6 => 6
    | _ => 8
  skipMany (min count found.length)
  if found.length < count then stop "Expected hex digit."
  let digits := (found.take count).map fun c => (hexValue? c).getD 0
  let bytes := if count ≤ 4 then digits.map (· * 17)
    else (List.range (count / 2)).map fun i => digits.getD (2 * i) 0 * 16 + digits.getD (2 * i + 1) 0
  let part (i : Nat) := Float.ofNat (bytes.getD i 0)
  let text := String.ofList ('#' :: found.take count)
  match bytes[3]? with
  | some alpha =>
    termFrom start (.color
      { red := part 0, green := part 1, blue := part 2, alpha := Float.ofNat alpha / 255,
        form := .literal text })
  | none =>
    termFrom start (.color
      { red := part 0, green := part 1, blue := part 2, form := .literal text })

def markedName : Parser Term := do
  let start ← place
  skip
  if (← peek).any Char.isDigit then return ← hexColor start
  let before ← get
  let found ← piecesName g
  match Piece.plain? found with
  | some text =>
    if [3, 4, 6, 8].contains text.length && text.toList.all fun c => (hexValue? c).isSome then
      set before
      hexColor start
    else plainTerm start ("#" ++ text)
  | none => termFrom start (.string (Piece.joined (.text "#" :: found)) false)

def characterRange : Parser Term := do
  let start ← place
  let text ← rawText do
    skipMany 2
    let first ← takeWhile fun c => (hexValue? c).isSome
    let marks ← takeWhile (· = '?')
    if first.isEmpty && marks.isEmpty then stop "Expected hex digit or \"?\"."
    if 6 < first.length + marks.length then
      stopAt "Expected at most 6 digits." (← spanFrom start)
    if marks.isEmpty then
      if ← scan '-' then
        let secondStart ← place
        let found ← takeWhile fun c => (hexValue? c).isSome
        if found.isEmpty then stop "Expected hex digit."
        if 6 < found.length then stopAt "Expected at most 6 digits." (← spanFrom secondStart)
      let c ← peek
      if c.any (fun c => isNamePart c || c = '\\') || (← isAtPieceFrom 0) then
        stop "Expected end of identifier."
  plainTerm start text

def variableTerm : Parser Term := do
  let start ← place
  let found ← variableName
  if ← isPlain then stopAt "Sass variables aren't allowed in plain CSS." (← spanFrom start)
  termFrom start (.name { space := none, name := found })

def importance : Parser Term := do
  let start ← place
  skip
  skipGaps
  expectName "important"
  plainTerm start "!important"

def arguments (isMixin allowsEmptySecond : Bool) : Parser Arguments := do
  let start ← place
  expect '('
  skipGaps
  let finish (positional : List Term) (named : List (String × Term)) (rest keywords : Option Term) :
      Parser Arguments := do
    expect ')'
    return .mk (← spanFrom start) positional.reverse named.reverse rest keywords
  iterate (fun (positional, named, rest) => do
    if !(← isAtTerm) then return .inr (← finish positional named rest none)
    let value ← g.item (!isMixin)
    skipGaps
    let more (positional : List Term) (named : List (String × Term)) (rest : Option Term) :
        Parser (_ ⊕ Arguments) := do
      skipGaps
      if !(← scan ',') then return .inr (← finish positional named rest none)
      skipGaps
      if allowsEmptySecond && positional.length == 1 && named.isEmpty && rest.isNone then
        if ← isAt ')' then
          let empty ← plainTerm (← place) ""
          return .inr (← finish (empty :: positional) named rest none)
      return .inl (positional, named, rest)
    let known : Option String := match value.node with
      | .name { space := none, name := found, .. } => some found
      | _ => none
    if let some found := known then
      if ← scan ':' then
        skipGaps
        if named.any fun other => other.1 == found then stopAt "Duplicate argument." value.span
        let given ← g.item (!isMixin)
        return ← more positional ((found, given) :: named) rest
    if ← scan '.' then
      expect '.'
      expect '.'
      if rest.isNone then return ← more positional named (some value)
      skipGaps
      return .inr (← finish positional named rest (some value))
    if !named.isEmpty then
      stopAt "Positional arguments must come before keyword arguments." value.span
    more (value :: positional) named rest)
    (([], [], none) : List Term × List (String × Term) × Option Term)

/-- Requires that a name is no private one, which begins with a dash. -/
def requirePublic (name : String) (start : Nat) : Parser Unit := do
  if name.startsWith "-" then
    stopAt "Private members can't be accessed from outside their modules." (← spanFrom start)

def publicName : Parser String := do
  let start ← place
  let found ← plainName
  requirePublic found start
  return found

/-- Stops where a module stands in a plain style sheet. -/
def requireModules (start : Nat) : Parser Unit := do
  if ← isPlain then stopAt "Module namespaces aren't allowed in plain CSS." (← spanFrom start)

/-- A name with dashes for underscores, which mean the same. -/
def dashed (name : String) : String := name.map fun c => if c = '_' then '-' else c

/-- A variable or a function of a module, behind the point. -/
def memberOf (space : String) (spaceSpan : Span) (start : Nat) : Parser Term := do
  if ← isAt '$' then
    let found ← variableName
    requirePublic found start
    requireModules start
    termFrom start (.name { space := some (dashed space), name := found, spaceSpan })
  else
    let found ← publicName
    let given ← arguments g false false
    requireModules start
    termFrom start (.call { space := some (dashed space), name := found, spaceSpan } given)

/-- Whether an expression stands in the text of a calculation in front of its end, but not in
parentheses in it. -/
def holdsPiece : Parser Bool :=
  lookahead (iterate (fun (closers : List Char) => do
    match ← peek with
    | none => return .inr false
    | some c =>
      match c with
      | '\\' =>
        skipMany 2
        return .inl closers
      | '/' =>
        if !(← scanComment) then skip
        return .inl closers
      | '"' | '\'' =>
        let _ ← string g
        return .inl closers
      | '#' =>
        if !closers.contains ')' && (← isAtPieceFrom 0) then return .inr true
        skip
        return .inl closers
      | '(' | '\x7b' | '[' =>
        skip
        return .inl ((if c = '(' then ')' else if c = '[' then ']' else '\x7d') :: closers)
      | ')' | '\x7d' | ']' =>
        skip
        match closers with
        | closer :: closers => if closer = c then return .inl closers else return .inr false
        | [] => return .inr false
      | _ =>
        skip
        return .inl closers) [])

def calculationText? : Parser (Option Term) := do
  if !(← holdsPiece g) then return none
  let start ← place
  let found ← rawValue g false false true
  return some (← termFrom start (.string found false))

def calculationArguments (limit : Option Nat) : Parser (List Term) := do
  expect '('
  if let some text ← calculationText? g then
    expect ')'
    return [text]
  skipGaps
  let first ← g.sum
  let found ← iterate (fun (found : List Term) => do
    if limit.any (· ≤ found.length) then return .inr found.reverse
    if !(← scan ',') then return .inr found.reverse
    skipGaps
    return .inl ((← g.sum) :: found)) [first]
  if !(← scan ')') then
    expected (if limit == some found.length then "\"+\", \"-\", \"*\", \"/\", or \")\""
      else "\"+\", \"-\", \"*\", \"/\", \",\", or \")\"")
  return found

/-- A calculation of a name that has been read, if its arguments are at hand. -/
def calculation? (name : String) (start : Nat) : Parser (Option Term) := do
  match name with
  | "calc" => return some (← termFrom start (.calculation name (← calculationArguments g (some 1))))
  | "clamp" => return some (← termFrom start (.calculation name (← calculationArguments g (some 3))))
  | "min" | "max" =>
    match ← attempt (calculationArguments g none) with
    | some found => return some (← termFrom start (.calculation name found))
    | none => return none
  | _ => return none

def calculationValue : Parser Term := do
  let start ← place
  match ← peek with
  | some '+' | some '-' | some '.' => number
  | some '$' => variableTerm
  | some '(' =>
    let before := (← surroundings).isInParens
    setParens true
    skip
    let value ← match ← calculationText? g with
      | some text => pure text
      | none =>
        skipGaps
        g.sum
    skipGaps
    expect ')'
    setParens before
    termFrom start (.paren value)
  | some c =>
    if c.isDigit then number
    else if !(← isAtName) then stop "Expected number, variable, function, or calculation."
    else
      let found ← name
      let span ← spanFrom start
      if ← scan '.' then return ← memberOf g found span start
      if !(← isAt '(') then stop "Expected \"(\" or \".\"."
      if let some value ← calculation? g found.toLower start then return value
      if found.toLower == "if" then
        let given ← arguments g false false
        termFrom start (.choice given)
      else
        let given ← arguments g false (found.toLower == "var")
        termFrom start (.call { space := none, name := found } given)
  | none => stop "Expected number, variable, function, or calculation."

def calculationProduct : Parser Term := do
  let start ← place
  let first ← calculationValue g
  iterate (fun (left : Term) => do
    let before ← get
    skipGaps
    let operator? := match ← peek with
      | some '*' => some Operator.times
      | some '/' => some Operator.over
      | _ => none
    match operator? with
    | none =>
      set before
      return .inr left
    | some operator =>
      skip
      skipGaps
      let right ← calculationValue g
      return .inl (← termFrom start (.binary operator left right false))) first

def calculationSum : Parser Term := do
  let start ← place
  let first ← calculationProduct g
  iterate (fun (left : Term) => do
    skipGaps
    match ← peek with
    | some c =>
      if c = '+' || c = '-' then
        let next ← peekAt 1
        if !isGap (← get).last || !(next.any isGap) then
          stop "\"+\" and \"-\" must be surrounded by whitespace in calculations."
        skip
        skipGaps
        let right ← calculationProduct g
        let operator := if c = '+' then Operator.plus else Operator.minus
        return .inl (← termFrom start (.binary operator left right false))
      else return .inr left
    | none => return .inr left) first

def rawFunction? (name : String) (start : Nat) : Parser (Option Term) := do
  if ← isAt '(' then
    if let some value ← calculation? g name start then return some value
  let ending := match name.toList with
    | '-' :: rest => (rest.dropWhile (· ≠ '-')).drop 1
    | other => other
  let opening ← do match String.ofList ending with
    | "calc" | "element" | "expression" =>
      if ← scan '(' then pure (some (name ++ "(")) else pure none
    | "progid" =>
      if ← scan ':' then
        let inner ← takeWhile fun c => c.isAlpha || c = '.'
        expect '('
        pure (some (name ++ ":" ++ String.ofList inner ++ "("))
      else pure none
    | _ => pure none
  match opening with
  | some opening =>
    let inner ← rawValue g false true true
    expect ')'
    return some (← termFrom start
      (.string (Piece.joined (.text opening :: inner ++ [.text ")"])) false))
  | none =>
    if name == "url" then
      match ← address? g "url" with
      | some found => return some (← termFrom start (.string found false))
      | none => return none
    else return none

def knownName? (name : String) : Option TermNode :=
  match name with
  | "null" => some .null
  | "true" => some (.bool true)
  | "false" => some (.bool false)
  | "transparent" =>
    some (.color { red := 0, green := 0, blue := 0, alpha := 0, form := .literal name })
  | _ => (colorOfName? name).map fun parts => .color (Color.ofNat parts (.literal name))

/-- A value that begins with a name. The value behind `not` is read with the given parser. -/
def nameTerm (single : Parser Term) : Parser Term := do
  let start ← place
  let found ← piecesName g
  let span ← spanFrom start
  let plain := Piece.plain? found
  let opens ← isAt '('
  if let some text := plain then
    if text == "if" && opens then
      let given ← arguments g false false
      return ← termFrom start (.choice given)
    if text == "not" then
      skipGaps
      let value ← single
      return ← termFrom start (.unary .not value)
    if !opens then
      if let some node := knownName? text then return .mk span node
    if let some value ← rawFunction? g text.toLower start then return value
  match ← peek, plain with
  | some '.', _ =>
    if (← peekAt 1) == some '.' then return .mk span (.string found false)
    skip
    match plain with
    | some space => memberOf g space span start
    | none => stopAt "Interpolation isn't allowed in namespaces." span
  | some '(', some text =>
    let given ← arguments g false (text.toLower == "var")
    if ← isPlain then return ← termFrom start (.plainCall found given)
    termFrom start (.call { space := none, name := text } given)
  | some '(', none =>
    let given ← arguments g false false
    termFrom start (.plainCall found given)
  | _, _ => return .mk span (.string found false)

def signedTerm (sign : Sign) (single : Parser Term) : Parser Term := do
  let start ← place
  skip
  skipGaps
  let value ← single
  termFrom start (.unary sign value)

def mapTerm (start : Nat) (first : Term) : Parser Term := do
  let value ← g.item false
  let pairs ← iterate (fun (found : List (Term × Term)) => do
    if !(← scan ',') then return .inr found.reverse
    skipGaps
    if !(← isAtTerm) then return .inr found.reverse
    let key ← g.item false
    expect ':'
    skipGaps
    let value ← g.item false
    return .inl ((key, value) :: found)) [(first, value)]
  expect ')'
  termFrom start (.map pairs)

/-- A value in parentheses: an expression, a list, or a map. -/
def parenTerm : Parser Term := do
  if ← isPlain then stop "Parentheses aren't allowed in plain CSS."
  let start ← place
  let before := (← surroundings).isInParens
  setParens true
  skip
  skipGaps
  if !(← isAtTerm) then
    expect ')'
    setParens before
    return ← termFrom start (.list [] .undecided false)
  let first ← g.item false
  if ← scan ':' then
    skipGaps
    setParens before
    return ← mapTerm g start first
  if !(← scan ',') then
    expect ')'
    setParens before
    return ← termFrom start (.paren first)
  skipGaps
  let items ← iterate (fun (found : List Term) => do
    if !(← isAtTerm) then return .inr found.reverse
    let value ← g.item false
    if !(← scan ',') then return .inr (value :: found).reverse
    skipGaps
    return .inl (value :: found)) [first]
  expect ')'
  setParens before
  termFrom start (.list items .comma false)

def parentTerm : Parser Term := do
  if ← isPlain then stop "The parent selector isn't allowed in plain CSS."
  let start ← place
  skip
  termFrom start .parent

/-- A value without operators between values, nested at most `n` signs deep. -/
def single : (n : Nat) → Parser Term
  | 0 => stop "Expected expression."
  | n + 1 => do
    let start ← place
    match ← peek with
    | some '(' => parenTerm g
    | some '/' => signedTerm .over (single n)
    | some '[' => g.bracketed
    | some '$' => variableTerm
    | some '&' => parentTerm
    | some '"' | some '\'' =>
      let found ← string g
      termFrom start (.string found true)
    | some '#' =>
      if ← isAtPieceFrom 0 then nameTerm g (single n) else markedName g
    | some '+' =>
      match ← peekAt 1 with
      | some c => if c.isDigit || c = '.' then number else signedTerm .plus (single n)
      | none => signedTerm .plus (single n)
    | some '-' =>
      match ← peekAt 1 with
      | some c =>
        if c.isDigit || c = '.' then number
        else if ← isAtPieces then nameTerm g (single n)
        else signedTerm .minus (single n)
      | none => signedTerm .minus (single n)
    | some '!' => importance
    | some c =>
      if (c = 'u' || c = 'U') && (← peekAt 1) == some '+' then characterRange
      else if c.isDigit || c = '.' then number
      else if isNameStart c || c = '\\' then nameTerm g (single n)
      else stopAt "Expected expression." (← spanFrom start)
    | none => stopAt "Expected expression." (← spanFrom start)

/-- What an expression has become so far: values with commas behind them, values with spaces behind
them, operands and the operators behind them, and the last value. -/
structure Pending where
  commas : List Term := []
  spaces : List Term := []
  operators : List (Term × Operator) := []
  last : Option Term
  /-- Whether a quotient may be meant as it is written. -/
  allowsSlash : Bool
  hasCommas : Bool := false

/-- Whether a quotient with this operand may be meant as it is written. -/
def isSlashOperand (value : Term) : Bool :=
  match value.node with
  | .number _ | .calculation .. => true
  | .binary _ _ _ keepsSlash => keepsSlash
  | _ => false

def applyLast (p : Pending) : Parser Pending := do
  match p.operators, p.last with
  | (left, operator) :: operators, some right =>
    let span := left.span.merge right.span
    let keepsSlash := p.allowsSlash && !(← surroundings).isInParens && operator == .over &&
      isSlashOperand left && isSlashOperand right
    return { p with
      operators
      last := some (.mk span (.binary operator left right keepsSlash))
      allowsSlash := keepsSlash }
  | (left, _) :: _, none => stopAt "Expected expression." left.span
  | [], _ => return p

/-- Applies the operators that bind at least as strongly, at most `n`. -/
def applyFrom (strength : Nat) : (n : Nat) → Pending → Parser Pending
  | 0, p => return p
  | n + 1, p =>
    match p.operators with
    | (_, operator) :: _ =>
      if strength ≤ operator.strength then do applyFrom strength n (← applyLast p) else return p
    | [] => return p

def applyAll (p : Pending) : Parser Pending := applyFrom 0 p.operators.length p

def closeSpaces (p : Pending) : Parser Pending := do
  let p ← applyAll p
  match p.spaces, p.last with
  | [], _ => return p
  | first :: rest, some last =>
    let items := (last :: first :: rest).reverse
    let span := (items.headD last).span.merge last.span
    return { p with spaces := [], last := some (.mk span (.list items .space false)) }
  | _, none => expected "expression"

/-- Forgets what has been read, to read it again outside of parentheses. -/
def restart (before : Reader) : Parser Pending := do
  set before
  setParens false
  return { last := some (← single g (before.rest.length + 1)), allowsSlash := true }

/-- Adds a value, which makes a list of it and the values in front of it. -/
def addValue (before : Reader) (p : Pending) (value : Term) : Parser Pending := do
  match p.last with
  | none => return { p with last := some value }
  | some _ =>
    if (← surroundings).isInParens then
      setParens false
      if p.allowsSlash then return ← restart g before
    let p ← applyAll p
    return { p with spaces := p.last.toList ++ p.spaces, last := some value, allowsSlash := true }

/-- Adds an operator that has been read, and the value behind it. -/
def addOperator (p : Pending) (operator : Operator) (span : Span) : Parser Pending := do
  if (← isPlain) && operator != .over && operator != .singleEqual then
    stopAt "Operators aren't allowed in plain CSS." span
  let p := { p with allowsSlash := p.allowsSlash && operator == .over }
  let p ← applyFrom operator.strength p.operators.length p
  match p.last with
  | none => stopAt "Expected expression." span
  | some left =>
    skipGaps
    let right ← single g ((← get).rest.length + 1)
    return { p with operators := (left, operator) :: p.operators, last := some right }

def isAtLimit (limit : Limit) : Parser Bool := do
  match limit with
  | .none => return false
  | .comma => isAt ','
  | .range => lookahead do return (← scanName "to") || (← scanName "through")
  | .comparison =>
    match ← peek with
    | some '<' | some '>' => return true
    | some '=' => return (← peekAt 1) != some '='
    | _ => return false

/-- One step behind the first value: adds a value, an operator or a comma, or stops. -/
def stepTerm (limit : Limit) (hasSingleEqual : Bool) (before : Reader) (p : Pending) :
    Parser (Pending ⊕ Pending) := do
  skipGaps
  if ← isAtLimit limit then return .inr p
  let start ← place
  let value (parser : Parser Term) : Parser (Pending ⊕ Pending) := do
    return .inl (← addValue g before p (← parser))
  let apply (operator : Operator) (length : Nat) : Parser (Pending ⊕ Pending) := do
    skipMany length
    return .inl (← addOperator g p operator (← spanFrom start))
  let simple := single g ((← get).rest.length + 1)
  let following ← peekAt 1
  match ← peek with
  | none => return .inr p
  | some c =>
    match c with
    | '(' | '[' | '$' | '&' | '"' | '\'' | '#' => value simple
    | '=' =>
      if hasSingleEqual && following != some '=' then apply .singleEqual 1
      else
        skip
        expect '='
        return .inl (← addOperator g p .equal (← spanFrom start))
    | '!' =>
      match following with
      | some '=' => apply .notEqual 2
      | none | some 'i' | some 'I' => value importance
      | some d => if isGap d then value importance else return .inr p
    | '<' => if following == some '=' then apply .lessOrEqual 2 else apply .less 1
    | '>' => if following == some '=' then apply .greaterOrEqual 2 else apply .greater 1
    | '*' => apply .times 1
    | '%' => apply .modulo 1
    | '+' => if p.last.isNone then value simple else apply .plus 1
    | '/' => if p.last.isNone then value simple else apply .over 1
    | '-' =>
      let startsNumber := following.any fun d => d.isDigit || d = '.'
      if startsNumber && (p.last.isNone || isGap (← get).last) then value number
      else if ← isAtPieces then value simple
      else if p.last.isNone then value simple
      else apply .minus 1
    | '.' => if following == some '.' then return .inr p else value number
    | ',' =>
      if (← surroundings).isInParens then
        setParens false
        if p.allowsSlash then return .inl (← restart g before)
      if p.last.isNone then stop "Expected expression."
      let p ← closeSpaces p
      skip
      return .inl { p with
        commas := p.last.toList ++ p.commas, last := none, allowsSlash := true, hasCommas := true }
    | _ =>
      if c.isDigit then value number
      else if isNameStart c || c = '\\' then
        if c = 'a' && !(← isPlain) then
          if ← scanName "and" then return .inl (← addOperator g p .and (← spanFrom start))
        if c = 'o' && !(← isPlain) then
          if ← scanName "or" then return .inl (← addOperator g p .or (← spanFrom start))
        value simple
      else return .inr p

def termRule (limit : Limit) (isBracketed hasSingleEqual : Bool) : Parser Term := do
  let start ← place
  let wasInParens := (← surroundings).isInParens
  if ← isAtLimit limit then stop "Expected expression."
  if isBracketed then
    expect '['
    skipGaps
    if ← scan ']' then return ← termFrom start (.list [] .undecided true)
  let before ← get
  let first ← single g (before.rest.length + 1)
  let p ← iterateUpTo (stepTerm g limit hasSingleEqual before) (2 * before.rest.length + 8)
    { last := some first, allowsSlash := true }
  if isBracketed then expect ']'
  if p.hasCommas then
    let p ← closeSpaces p
    setParens wasInParens
    termFrom start (.list (p.last.toList ++ p.commas).reverse .comma isBracketed)
  else if isBracketed && !p.spaces.isEmpty then
    let p ← applyAll p
    setParens wasInParens
    termFrom start (.list (p.last.toList ++ p.spaces).reverse .space true)
  else
    let p ← closeSpaces p
    setParens wasInParens
    match p.last with
    | some value =>
      if isBracketed then termFrom start (.list [value] .undecided true) else return value
    | none => stop "Expected expression."

/-- An expression that stands for all that has been read of it, with the blanks behind it. -/
def wholeTerm : Parser Term := do
  let start ← place
  let value ← g.term
  termFrom start (.paren value)

end ComponentBundle.Style.Parser
