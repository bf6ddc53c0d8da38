import ComponentBundle.Style.Parser.Reader

/-!
# Selectors of keyframes

A keyframe is a percentage, or a word for the first or the last one.
-/
namespace ComponentBundle.Style.Keyframe

open Style.Parser

/-- A percentage, as it is written. -/
def percentage : Parser String := do
  let plus := if ← scan '+' then "+" else ""
  let c ← peek
  if !c.any (fun c => c.isDigit || c = '.') then stop "Expected number."
  let whole ← takeWhile Char.isDigit
  let digits ← if ← scan '.' then do pure ('.' :: (← takeWhile Char.isDigit)) else pure []
  let power ← do
    if (← isAt 'e') || (← isAt 'E') then
      skip
      let sign ← if ← scan '+' then pure "+" else if ← scan '-' then pure "-" else pure ""
      let found ← takeWhile Char.isDigit
      if found.isEmpty then stop "Expected digit."
      pure ("e" ++ sign ++ String.ofList found)
    else pure ""
  expect '%'
  return plus ++ String.ofList (whole ++ digits) ++ power ++ "%"

def one : Parser String := do
  if !(← isAtName) then return ← percentage
  if ← scanName "to" then return "to"
  if ← scanName "from" then return "from"
  stop "Expected \"to\" or \"from\"."

def list : Parser (List String) :=
  iterate (fun (found : List String) => do
    skipGaps
    let found := (← one) :: found
    skipGaps
    if ← scan ',' then return .inl found
    return .inr found.reverse) []

/-- Reads the keyframes that expressions at a place result in. -/
def parse (text : String) (span : Span) : Except Fault (List String) :=
  (list (.ofText .braces text span)).map (·.1)

end ComponentBundle.Style.Keyframe
