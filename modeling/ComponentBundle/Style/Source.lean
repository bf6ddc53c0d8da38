import ComponentBundle.Text.Basic

/-!
# Places in styles

A fault in a style is reported with the line it is in, marks under the characters that it is about,
and the name of the file.
-/
namespace ComponentBundle.Style

/-- A style and the name of its file. -/
structure Source where
  name : Text
  text : Text
  length : Nat := text.length

/-- Characters of a style, from the first one up to the one behind the last. -/
structure Span where
  source : Source
  start : Nat
  stop : Nat

namespace Source

/-- The line of a character and its place in the line, both from zero. -/
def location (source : Source) (offset : Nat) : Nat × Nat :=
  let before := source.text.take offset
  (before.count '\n', (before.reverse.takeWhile (· ≠ '\n')).length)

/-- A line of the style, without what ends it. -/
def line (source : Source) (number : Nat) : Text :=
  let found := (Text.splitOnChar '\n' source.text).getD number []
  (found.reverse.dropWhile (· = '\r')).reverse

end Source

def Span.size (span : Span) : Nat :=
  Text.byteLength ((span.source.text.drop span.start).take (span.stop - span.start))

def Span.merge (first second : Span) : Span :=
  { first with start := min first.start second.start, stop := max first.stop second.stop }

structure Fault where
  message : String
  span : Span

def Fault.text (fault : Fault) : Text :=
  let source := fault.span.source
  let (line, column) := source.location fault.span.start
  let (_, last) := source.location fault.span.stop
  let number := (toString (line + 1)).toList
  let margin : Text := List.replicate (number.length + 1) ' '
  let marks : Text := List.replicate (max last column - min last column) '^'
  "Error: ".toList ++ fault.message.toList ++ ['\n'] ++ margin ++ "╷\n".toList ++
    number ++ " │ ".toList ++ source.line line ++ ['\n'] ++
    margin ++ "│ ".toList ++ List.replicate column ' ' ++ marks ++ ['\n'] ++
    margin ++ "╵\n./".toList ++ source.name ++ ":".toList ++ number ++ ":".toList ++
    (toString (column + 1)).toList ++ ['\n']

end ComponentBundle.Style
