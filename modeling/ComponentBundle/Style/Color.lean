import ComponentBundle.Style.ColorName
import ComponentBundle.Style.Measure

/-!
# Colors

A color has three parts up to 255 and a measure of how much it covers. It may also keep the form that
it was written in.
-/
namespace ComponentBundle.Style

inductive ColorForm where
  | plain
  | literal (text : String)
  | rgb
  | hsl

/-- A color; its hue, saturation and lightness are kept if it was made from them. -/
structure Color where
  red : Float
  green : Float
  blue : Float
  alpha : Float := 1.0
  form : ColorForm := .plain
  hsl? : Option (Float × Float × Float) := none

/-- A number between two others, or the nearer one of these. -/
def clamp (low high x : Float) : Float := if x < low then low else if high < x then high else x

/-- The nearest whole number; a half that has lost its last digits is still a half. -/
def roundNear (x : Float) : Float :=
  if isNear (x - x.floor) 0.5 then (if 0 < x then x.ceil else x.floor) else x.round

def byteOf (x : Float) : Nat := (clamp 0.0 255.0 (roundNear x)).toUInt8.toNat

namespace Color

/-- A color of three parts of eight bits. -/
def ofNat (parts : Nat) (form : ColorForm) : Color where
  red := Float.ofNat (parts / 65536 % 256)
  green := Float.ofNat (parts / 256 % 256)
  blue := Float.ofNat (parts % 256)
  form := form

/-- A color of three parts, each brought between its bounds. -/
def ofParts (red green blue alpha : Float) (form : ColorForm) : Color where
  red := clamp 0.0 255.0 red
  green := clamp 0.0 255.0 green
  blue := clamp 0.0 255.0 blue
  alpha := clamp 0.0 1.0 alpha
  form := form

def partOfHue (low high hue : Float) : Float :=
  let hue := if hue < 0 then hue + 1 else if 1 < hue then hue - 1 else hue
  if hue < 1.0 / 6.0 then low + (high - low) * hue * 6
  else if hue < 0.5 then high
  else if hue < 2.0 / 3.0 then low + (high - low) * (2.0 / 3.0 - hue) * 6
  else low

/-- A color of a hue in degrees, and a saturation and a lightness in percent. -/
def ofHsl (hue saturation lightness alpha : Float) (form : ColorForm) : Color :=
  let hue := positiveRest hue 360.0
  let saturation := clamp 0.0 100.0 saturation
  let lightness := clamp 0.0 100.0 lightness
  let s := saturation / 100
  let l := lightness / 100
  let high := if l ≤ 0.5 then l * (s + 1) else l + s - l * s
  let low := l * 2 - high
  let part (turn : Float) := roundNear (partOfHue low high (hue / 360 + turn) * 255)
  { red := part (1.0 / 3.0), green := part 0.0, blue := part (-1.0 / 3.0)
    alpha := clamp 0.0 1.0 alpha, form := form, hsl? := some (hue, saturation, lightness) }

/-- A color of a hue in degrees, and shares of white and black in percent. -/
def ofHwb (hue white black alpha : Float) : Color :=
  let turn := positiveRest hue 360.0 / 360
  let sum := (white + black) / 100
  let scale := if 1 < sum then sum else 1
  let white := white / 100 / scale
  let black := black / 100 / scale
  let part (offset : Float) :=
    roundNear ((partOfHue 0 1 (turn + offset) * (1 - white - black) + white) * 255)
  ofParts (part (1.0 / 3.0)) (part 0.0) (part (-1.0 / 3.0)) alpha .plain

/-- The hue in degrees, and the saturation and the lightness in percent. -/
def hsl (c : Color) : Float × Float × Float :=
  match c.hsl? with
  | some found => found
  | none =>
    let red := roundNear c.red / 255
    let green := roundNear c.green / 255
    let blue := roundNear c.blue / 255
    let high := max red (max green blue)
    let low := min red (min green blue)
    let range := high - low
    let sum := high + low
    let hue :=
      if range == 0 then 0.0
      else if high == red then 60 * (green - blue) / range
      else if high == green then 60 * (blue - red) / range + 120
      else 60 * (red - green) / range + 240
    let saturation := if range == 0 then 0.0 else range / (if 1 < sum then 2 - sum else sum)
    (positiveRest hue 360.0, saturation * 100, sum * 50)

def hue (c : Color) : Float := c.hsl.1

def saturation (c : Color) : Float := c.hsl.2.1

def lightness (c : Color) : Float := c.hsl.2.2

def whiteness (c : Color) : Float :=
  min (roundNear c.red) (min (roundNear c.green) (roundNear c.blue)) / 255 * 100

def blackness (c : Color) : Float :=
  100 - max (roundNear c.red) (max (roundNear c.green) (roundNear c.blue)) / 255 * 100

def withAlpha (c : Color) (alpha : Float) : Color :=
  ofParts (roundNear c.red) (roundNear c.green) (roundNear c.blue) alpha .plain

def toNat (c : Color) : Nat := byteOf c.red * 65536 + byteOf c.green * 256 + byteOf c.blue

def isEqual (first second : Color) : Bool :=
  let same (greatest x y : Float) : Bool := isNear x y || (greatest ≤ x && greatest ≤ y)
  same 255 first.red second.red && same 255 first.green second.green &&
    same 255 first.blue second.blue && same 1 first.alpha second.alpha

def hexByte (n : Nat) : String :=
  String.ofList [Nat.digitChar (n / 16 % 16), Nat.digitChar (n % 16)]

def functionText (name : String) (c : Color) (parts : List String) : String :=
  if isNear c.alpha 1 then name ++ "(" ++ ", ".intercalate parts ++ ")"
  else name ++ "a(" ++ ", ".intercalate (parts ++ [numberText c.alpha]) ++ ")"

/-- The color in parts of red, green and blue. -/
def rgbText (c : Color) : String :=
  functionText "rgb" c ([c.red, c.green, c.blue].map fun x => numberText (roundNear x))

def text (c : Color) : String :=
  match c.form with
  | .literal text => text
  | .rgb => c.rgbText
  | .hsl =>
    functionText "hsl" c
      [numberText c.hue ++ "deg", numberText c.saturation ++ "%", numberText c.lightness ++ "%"]
  | .plain =>
    if isNear c.alpha 1 then
      match nameOfColor? c.toNat with
      | some name => name
      | none => "#" ++ hexByte (byteOf c.red) ++ hexByte (byteOf c.green) ++ hexByte (byteOf c.blue)
    else c.rgbText

/-- A color between two others, in percent of the first one. -/
def mix (first second : Color) (percent : Float) : Color :=
  let share := clamp 0.0 100.0 percent / 100
  let balance := share * 2 - 1
  let distance := first.alpha - second.alpha
  let weight :=
    if balance * distance == -1 then balance else (balance + distance) / (1 + balance * distance)
  let weight := (weight + 1) / 2
  let between (x y : Float) := roundNear x * weight + roundNear y * (1 - weight)
  ofParts (between first.red second.red) (between first.green second.green)
    (between first.blue second.blue) (first.alpha * share + second.alpha * (1 - share)) .plain

end Color

end ComponentBundle.Style
