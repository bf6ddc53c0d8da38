import ComponentBundle.Style.Builtin.Given

/-!
# Functions of strings
-/
namespace ComponentBundle.Style.Builtin

open Value

/-- A string with other quotes, or with none. -/
def withQuotes (isQuoted : Bool) : Builtin := do
  Call.atMost 1
  return .string (← Call.string 0 "string").1 isQuoted

/-- A function of the characters of a string. -/
def ofText (change : String → String) : Builtin := do
  Call.atMost 1
  let (text, isQuoted) ← Call.string 0 "string"
  return .string (change text) isQuoted

def textLength : Builtin := do
  Call.atMost 1
  return ofInt (← Call.string 0 "string").1.length

def textIndex : Builtin := do
  Call.atMost 2
  let (text, _) ← Call.string 0 "string"
  let (part, _) ← Call.string 1 "substring"
  let found := (List.range (text.length + 1)).find? fun i =>
    part.toList.isPrefixOf (text.toList.drop i)
  return match found with
    | some i => ofInt (i + 1)
    | none => .null

/-- The number of characters in front of a place, which may be counted from the end. -/
def offsetOf (place : Int) (length : Nat) (allowsBehind : Bool) : Nat :=
  if place = 0 then 0
  else if 0 < place then min (place.toNat - 1) length
  else
    let fromEnd := (length : Int) + place + (if allowsBehind then 1 else 0)
    fromEnd.toNat

def textInsert : Builtin := do
  Call.atMost 3
  let (text, isQuoted) ← Call.string 0 "string"
  let (part, _) ← Call.string 1 "insert"
  let index ← Call.number 2 "index"
  let _ ← index.asPlain "index"
  let place ← index.asInteger "$index: "
  let start := offsetOf place text.length true
  let chars := text.toList.take start ++ part.toList ++ text.toList.drop start
  return .string (String.ofList chars) isQuoted

def textSlice : Builtin := do
  Call.atMost 3
  let (text, isQuoted) ← Call.string 0 "string"
  let lower ← Call.number 1 "start-at"
  let upper ← (← Call.argD 2 "end-at" (ofInt (-1))).asNumber "end-at"
  let _ ← lower.asPlain "start-at"
  let _ ← upper.asPlain "end-at"
  let last ← upper.asInteger ""
  if last = 0 then return .string "" isQuoted
  let first ← lower.asInteger ""
  let length := text.length
  let start := offsetOf first length false
  let stop : Nat := if 0 < last then min last.toNat length else ((length : Int) + last + 1).toNat
  return .string (String.ofList ((text.toList.take stop).drop start)) isQuoted

/-- The last `n` digits of a number, letters counting as digits, the last one first. -/
def drawnDigits : (n : Nat) → Nat → Text
  | 0, _ => []
  | n + 1, draw =>
    "0123456789ABCDEFGHIJKLMNOPQRSTUVWXYZabcdefghijklmnopqrstuvwxyz".toList.getD (draw % 62) '0' ::
      drawnDigits n (draw / 62)

def uniqueName : Builtin := do
  Call.atMost 0
  return plain ("id-" ++ String.ofList (drawnDigits 12 (← get).draw))

/-- Functions of strings and the names that the module of strings gives them. -/
def stringFunctions : List (String × String × Builtin) := [
  ("quote", "quote", withQuotes true), ("str-index", "index", textIndex),
  ("str-insert", "insert", textInsert), ("str-length", "length", textLength),
  ("str-slice", "slice", textSlice),
  ("to-lower-case", "to-lower-case", ofText fun s => s.map Char.toLower),
  ("to-upper-case", "to-upper-case", ofText fun s => s.map Char.toUpper),
  ("unique-id", "unique-id", uniqueName), ("unquote", "unquote", withQuotes false)]

end ComponentBundle.Style.Builtin
