import ComponentBundle.Style.Builtin.Given

/-!
# Functions of colors

Colors are made of parts, looked at and changed part by part. What only the program that shows the
page knows is left to it, with the whole call.
-/
namespace ComponentBundle.Style.Builtin

open Value

/-- A number without units, or a share of the greatest value in percent. -/
def shareOf (m : Measure) (greatest : Float) (name : String) : Outcome Float := do
  let x ←
    if m.isPlain then pure m.value
    else if m.hasUnit "%" then pure (m.value * greatest / 100)
    else throw ("$" ++ name ++ ": Expected " ++ m.text ++ " to have no units or \"%\".")
  return clamp 0.0 greatest x

/-- How much a color covers, as an argument; by default all. -/
def coverage (alpha : Option Value) : Outcome Float := do
  match alpha with
  | some value => shareOf (← value.asNumber "alpha") 1 "alpha"
  | none => return 1.0

def degrees (value : Value) (name : String) : Outcome Float := do
  let m ← value.asNumber name
  return (m.valueIn? (.ofUnit 0 "deg")).getD m.value

/-- The fourth argument, if there is one. -/
def fourth? (name : String) : Call (Option Value) := do
  if 3 < (← Call.count) then Call.get? 3 name else return none

/-- A color of three parts and how much it covers. -/
def rgbOf (name : String) : Builtin := do
  let alpha ← fourth? "alpha"
  let red ← Call.arg 0 "red"
  let green ← Call.arg 1 "green"
  let blue ← Call.arg 2 "blue"
  let all := [red, green, blue] ++ alpha.toList
  if all.any isLate then return ← (plainCall name all : Outcome Value)
  let red ← red.asNumber "red"
  let green ← green.asNumber "green"
  let blue ← blue.asNumber "blue"
  let red ← shareOf red 255 "red"
  let green ← shareOf green 255 "green"
  let blue ← shareOf blue 255 "blue"
  return .color (Color.ofParts (roundNear red) (roundNear green) (roundNear blue)
    (← coverage alpha) .rgb)

/-- A color of a hue, a saturation and a lightness. -/
def hslOf (name : String) : Builtin := do
  let hue ← Call.arg 0 "hue"
  let saturation ← Call.arg 1 "saturation"
  let lightness ← Call.arg 2 "lightness"
  let alpha ← Call.get? 3 "alpha"
  let all := [hue, saturation, lightness] ++ alpha.toList
  if all.any isLate then return ← (plainCall name all : Outcome Value)
  let hue ← degrees hue "hue"
  let saturation ← saturation.asNumber "saturation"
  let lightness ← lightness.asNumber "lightness"
  return .color (Color.ofHsl hue saturation.value lightness.value (← coverage alpha) .hsl)

def hwbOf : Builtin := do
  let hue ← degrees (← Call.arg 0 "hue") "hue"
  let white ← Call.number 1 "whiteness"
  white.requireUnit "whiteness" "%"
  let black ← Call.number 2 "blackness"
  black.requireUnit "blackness" "%"
  let alpha ← Call.get? 3 "alpha"
  let alpha ← coverage alpha
  white.requireWithin "whiteness" 0 100 "%"
  black.requireWithin "blackness" 0 100 "%"
  return .color (Color.ofHwb hue white.value black.value alpha)

/-- Parts in one list, or the text of a call that the page understands. -/
inductive Channels where
  | parts (values : List Value)
  | text (call : Value)

def notChannels (isBracketed hasCommas : Bool) : String :=
  "$channels must be" ++ (if isBracketed then " an unbracketed" else "") ++
    (if hasCommas then (if isBracketed then "," else " a") ++ " space-separated" else "") ++ " list."

/-- Parts in one list, with how much the color covers behind a slash. -/
def channelsOf (name : String) (names : List String) (channels : Value) : Outcome Channels := do
  let asText : Outcome Channels := return .text (← plainCall name [channels])
  if channels.isVariable then return ← asText
  let (parts, alpha) ←
    if channels.separator == .slash then
      match channels.items with
      | [first, last] => pure (first, some last)
      | items => throw ("Only 2 slash-separated elements allowed, but " ++ toString items.length ++
          (if items.length = 1 then " was" else " were") ++ " passed.")
    else pure (channels, none)
  if let some value := alpha then
    if !value.isLate then
      let _ ← value.asNumber "alpha"
    if parts.isVariable then return ← asText
  let hasCommas := parts.separator == .comma
  if hasCommas || parts.hasBrackets then throw (notChannels parts.hasBrackets hasCommas)
  let items := parts.items
  if 3 < items.length then
    throw ("Only 3 elements allowed, but " ++ toString items.length ++ " were passed.")
  match items with
  | [first, second, third] =>
    match third, alpha with
    | _, some value => return .parts [first, second, third, value]
    | .number _ (some q), none => return .parts [first, second, ofMeasure q.left, ofMeasure q.right]
    | .string text false, none =>
      if text.contains '/' then return .text (← plainCall name [parts]) else return .parts items
    | _, none => return .parts items
  | few =>
    let endsInSlash := match few.getLast? with
      | some (.string text true) => text.startsWith "var(" && text.contains '/'
      | _ => false
    if few.any isVariable || endsInSlash then asText
    else throw ("Missing element $" ++ names.getD few.length "" ++ ".")

def ofChannels (name : String) (names : List String) (make : Builtin) : Builtin := do
  match ← channelsOf name names (← Call.arg 0 "channels") with
  | .parts values => Call.again values make
  | .text call => return call

def withCoverage (name : String) : Builtin := do
  let color ← Call.arg 0 "color"
  let alpha ← Call.arg 1 "alpha"
  let parts (c : Color) : Outcome Value :=
    plainCall name
      ([roundNear c.red, roundNear c.green, roundNear c.blue].map ofFloat ++ [alpha])
  if color.isVariable then return ← (plainCall name [color, alpha] : Outcome Value)
  if alpha.isVariable then
    match color with
    | .color c => return ← parts c
    | _ => return ← (plainCall name [color, alpha] : Outcome Value)
  let c ← color.asColor "color"
  if alpha.isLate then return ← parts c
  return .color (c.withAlpha (← shareOf (← alpha.asNumber "alpha") 1 "alpha"))

/-- A color of parts of red, green and blue. -/
def rgb (name : String) : Builtin := do
  Call.atMost 4
  match ← Call.count with
  | 0 | 1 => ofChannels name ["red", "green", "blue"] (rgbOf name)
  | 2 => withCoverage name
  | _ => rgbOf name

/-- A color of a hue, a saturation and a lightness. -/
def hsl (name : String) : Builtin := do
  Call.atMost 4
  match ← Call.count with
  | 0 | 1 => ofChannels name ["hue", "saturation", "lightness"] (hslOf name)
  | 2 =>
    let all := [← Call.arg 0 "hue", ← Call.arg 1 "saturation"]
    if all.any isVariable then plainCall name all
    else Call.stop "Missing argument $lightness."
  | _ => hslOf name

def hwb : Builtin := do
  Call.atMost 4
  if 1 < (← Call.count) then return ← hwbOf
  match ← channelsOf "hwb" ["hue", "whiteness", "blackness"] (← Call.arg 0 "channels") with
  | .parts values => Call.again values hwbOf
  | .text call => Call.stop ("Expected numeric channels, got " ++ call.shown)

def part (find : Color → Measure) : Builtin := do
  Call.atMost 1
  return ofMeasure (find (← Call.color 0 "color"))

/-- Whether a text begins like a filter of another program: with letters, blanks and `=`. -/
def isFilter (text : String) : Bool :=
  match text.toList with
  | c :: rest =>
    c.isAlpha && ((rest.dropWhile Char.isAlpha).dropWhile fun d =>
      d = ' ' || d = '\t' || d = '\n').head? == some '='
  | [] => false

def isFilterValue : Value → Bool
  | .string text false => isFilter text
  | _ => false

/-- How much a color covers. Filters of other programs are let through. -/
def alpha : Builtin := do
  if 1 < (← Call.count) then
    let g ← get
    let values ← Call.others
    if values.all isFilterValue then
      return ← (plainCall "alpha" values : Outcome Value)
    set g
    Call.atMost 1
  let value ← Call.arg 0 "color"
  if isFilterValue value then return ← (plainCall "alpha" [value] : Outcome Value)
  return ofFloat (← value.asColor "color").alpha

/-- How much a color covers. A number is a filter of the page. -/
def opacity : Builtin := do
  Call.atMost 1
  match ← Call.arg 0 "color" with
  | .number m _ => plainCall "opacity" [ofMeasure m]
  | value => return ofFloat (← value.asColor "color").alpha

/-- A color with another hue, saturation and lightness. -/
def withHsl (c : Color) (change : Float → Float → Float → Float × Float × Float) : Value :=
  let (h, s, l) := c.hsl
  let (h, s, l) := change h s l
  .color (Color.ofHsl h s l c.alpha .plain)

def byPercent (change : Color → Float → Value) : Builtin := do
  Call.atMost 2
  let c ← Call.color 0 "color"
  return change c (← Call.bounded 1 "amount" 0 100)

def byShare (change : Float → Float → Float) : Builtin := do
  Call.atMost 2
  let c ← Call.color 0 "color"
  let amount ← Call.number 1 "amount"
  amount.requireWithin "amount" 0 1 ""
  return .color (c.withAlpha (change c.alpha amount.value))

/-- A color without its saturation. A number is a filter of the page. -/
def grayscale : Builtin := do
  Call.atMost 1
  match ← Call.arg 0 "color" with
  | .number m _ => return plain ("grayscale(" ++ m.text ++ ")")
  | value => return withHsl (← value.asColor "color") fun h _ l => (h, 0, l)

def complement : Builtin := do
  Call.atMost 1
  return withHsl (← Call.color 0 "color") fun h s l => (h + 180, s, l)

def saturate : Builtin := do
  Call.atMost 2
  if (← Call.count) = 1 then
    return ← (plainCall "saturate" [ofMeasure (← Call.number 0 "amount")] : Outcome Value)
  let amount ← Call.bounded 1 "amount" 0 100
  match ← Call.arg 0 "color" with
  | .number m _ => return plain ("saturate(" ++ m.text ++ ")")
  | value => return withHsl (← value.asColor "color") fun h s l => (h, s + amount, l)

def mix : Builtin := do
  Call.atMost 3
  let first ← Call.color 0 "color1"
  let second ← Call.color 1 "color2"
  let weight ← (← Call.argD 2 "weight" (ofMeasure (.ofUnit 50 "%"))).asNumber "weight"
  weight.requireWithin "weight" 0 100 weight.unitText
  return .color (first.mix second weight.value)

def invert : Builtin := do
  Call.atMost 2
  let weight? ← Call.get? 1 "weight"
  let weight ← match weight? with
    | some value => do
      let m ← (value.asNumber "weight" : Outcome Measure)
      m.requireWithin "weight" 0 100 m.unitText
      pure m.value
    | none => pure 100
  match ← Call.arg 0 "color" with
  | .number m _ =>
    if weight?.isSome then
      Call.stop "Only one argument may be passed to the plain-CSS invert() function."
    return plain ("invert(" ++ m.text ++ ")")
  | value =>
    let c ← value.asColor "color"
    if isNear weight 0 then return .color c
    let opposite := Color.ofParts (255 - roundNear c.red) (255 - roundNear c.green)
      (255 - roundNear c.blue) c.alpha .plain
    return .color (opposite.mix c weight)

def adjustHue : Builtin := do
  Call.atMost 2
  let c ← Call.color 0 "color"
  let turn ← degrees (← Call.arg 1 "degrees") "degrees"
  return withHsl c fun h s l => (h + turn, s, l)

inductive Change where
  | adjust
  | scale
  | set
  deriving DecidableEq

def Change.apply (change : Change) (greatest current : Float) (amount : Option Float) : Float :=
  match amount, change with
  | none, _ => current
  | some x, .set => x
  | some x, .adjust => clamp 0 greatest (x + current)
  | some x, .scale => current + (if 0 < x then greatest - current else current) * (x / 100)

/-- The amount that a part is changed by, if it is. -/
def Change.amount? (change : Change) (name : String) (greatest : Float) (inPercent : Bool)
    (unit : String) : Call (Option Float) := do
  match ← Call.named? name with
  | none => return none
  | some value =>
    let m ← (value.asNumber name : Outcome Measure)
    let greatest := if change == .scale then 100 else greatest
    let least := if change == .set then 0 else -greatest
    if inPercent || change == .scale then
      m.requireUnit name "%"
      m.requireWithin name least greatest m.unitText
    else m.requireWithin name least greatest unit
    return some m.value

def changeParts (change : Change) : Builtin := do
  let c ← Call.color 0 "color"
  if 1 < (← get).positional.length then
    Call.stop "Only one positional argument is allowed. All other arguments must be passed by name."
  let red ← change.amount? "red" 255 false ""
  let green ← change.amount? "green" 255 false ""
  let blue ← change.amount? "blue" 255 false ""
  let alpha ← change.amount? "alpha" 1 false ""
  let hue ← do
    if change == .scale then pure none
    else match ← Call.named? "hue" with
      | some value => do pure (some (← (degrees value "hue" : Outcome Float)))
      | none => pure none
  let saturation ← change.amount? "saturation" 100 false "%"
  let lightness ← change.amount? "lightness" 100 false "%"
  let white ← change.amount? "whiteness" 100 true "%"
  let black ← change.amount? "blackness" 100 true "%"
  let unknown := (← get).named.map (·.1)
  if !unknown.isEmpty then Call.stop (unknownNames unknown)
  let hasRgb := red.isSome || green.isSome || blue.isSome
  let hasHsl := saturation.isSome || lightness.isSome
  let hasHwb := white.isSome || black.isSome
  if hasRgb && (hasHsl || hasHwb || hue.isSome) then
    Call.stop ("RGB parameters may not be passed along with " ++ (if hasHwb then "HWB" else "HSL") ++
      " parameters.")
  if hasHsl && hasHwb then
    Call.stop "HSL parameters may not be passed along with HWB parameters."
  let covered := change.apply 1 c.alpha alpha
  let turned (h : Float) : Float := if change == .set then hue.getD h else h + hue.getD 0
  let byte (current : Float) (amount : Option Float) : Float :=
    roundNear (change.apply 255 (roundNear current) amount)
  if hasRgb then
    return .color
      (Color.ofParts (byte c.red red) (byte c.green green) (byte c.blue blue) covered .plain)
  if hasHwb then
    return .color (Color.ofHwb (turned c.hue) (change.apply 100 c.whiteness white)
      (change.apply 100 c.blackness black) covered)
  if hasHsl || hue.isSome then
    let (h, s, l) := c.hsl
    return .color (Color.ofHsl (turned h) (change.apply 100 s saturation)
      (change.apply 100 l lightness) covered .plain)
  return .color (if alpha.isSome then c.withAlpha covered else c)

def hexText : Builtin := do
  Call.atMost 1
  let c ← Call.color 0 "color"
  let digits := Color.hexByte (byteOf (c.alpha * 255)) ++ Color.hexByte (byteOf c.red) ++
    Color.hexByte (byteOf c.green) ++ Color.hexByte (byteOf c.blue)
  return plain ("#" ++ digits.toUpper)

def percent (x : Float) : Measure := .ofUnit x "%"

/-- Functions of colors and the names that the module of colors gives them, if it does. -/
def colorFunctions : List (String × Option String × Builtin) := [
  ("rgb", none, rgb "rgb"), ("rgba", none, rgb "rgba"),
  ("hsl", none, hsl "hsl"), ("hsla", none, hsl "hsla"),
  ("adjust-color", some "adjust", changeParts .adjust), ("alpha", some "alpha", alpha),
  ("blue", some "blue", part fun c => ⟨roundNear c.blue, [], []⟩),
  ("change-color", some "change", changeParts .set), ("complement", some "complement", complement),
  ("grayscale", some "grayscale", grayscale),
  ("green", some "green", part fun c => ⟨roundNear c.green, [], []⟩),
  ("hue", some "hue", part fun c => .ofUnit c.hue "deg"),
  ("ie-hex-str", some "ie-hex-str", hexText), ("invert", some "invert", invert),
  ("lightness", some "lightness", part fun c => percent c.lightness), ("mix", some "mix", mix),
  ("opacity", some "opacity", opacity),
  ("red", some "red", part fun c => ⟨roundNear c.red, [], []⟩),
  ("saturation", some "saturation", part fun c => percent c.saturation),
  ("scale-color", some "scale", changeParts .scale),
  ("lighten", none, byPercent fun c x => withHsl c fun h s l => (h, s, l + x)),
  ("darken", none, byPercent fun c x => withHsl c fun h s l => (h, s, l - x)),
  ("saturate", none, saturate),
  ("desaturate", none, byPercent fun c x => withHsl c fun h s l => (h, s - x, l)),
  ("adjust-hue", none, adjustHue),
  ("opacify", none, byShare (· + ·)), ("fade-in", none, byShare (· + ·)),
  ("transparentize", none, byShare (· - ·)), ("fade-out", none, byShare (· - ·))]

def innerColorFunctions : List (String × Builtin) := [
  ("hwb", hwb), ("whiteness", part fun c => percent c.whiteness),
  ("blackness", part fun c => percent c.blackness)]

end ComponentBundle.Style.Builtin
