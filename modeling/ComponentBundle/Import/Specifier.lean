import ComponentBundle.Text.Blank
import ComponentBundle.Text.Word

/-!
# Import specifiers

The modules that a script asks for are read off its lines, not off its grammar. A line that begins
with the word `import`, blanks apart, names the text between its first quote, at least one character
after that word, and its last quote.
-/
namespace ComponentBundle.Import

def keyword : Text := "import".toList

def isQuote (c : Char) : Bool := c == '"' || c == '\''

def beforeLastQuote? (text : Text) : Option Text :=
  match text.reverse.dropWhile (!isQuote ·) with
  | [] => none
  | _ :: front => some front.reverse

/-- The specifier between the first and the last quote, if it is not empty. -/
def betweenQuotes? (text : Text) : Option Text :=
  match text.dropWhile (!isQuote ·) with
  | [] => none
  | _ :: rest =>
    match beforeLastQuote? rest with
    | some (c :: specifier) => some (c :: specifier)
    | _ => none

def ofLine? (line : Text) : Option Text :=
  match Text.dropPrefix? keyword line.trimStart with
  | some (_ :: rest) => betweenQuotes? rest
  | _ => none

/-- The specifiers that a script names, line by line. -/
def specifiers (script : Text) : List Text := script.lines.filterMap ofLine?

def skipSemicolon : Text → Text
  | ';' :: rest => rest
  | text => text

/-- What follows a line feed with or without a carriage return, or the end of the text. -/
def afterBreak? : Text → Option Text
  | [] => some []
  | '\n' :: rest => some rest
  | '\r' :: '\n' :: rest => some rest
  | _ => none

/-- What follows the end of a line, which a semicolon, spaces and tabs may stand in front of. -/
def afterLineEnd? (text : Text) : Option Text :=
  afterBreak? ((skipSemicolon text).dropWhile fun c => c == ' ' || c == '\t')

def afterQuotedLine? : Text → Option Text
  | [] => none
  | c :: rest =>
    if isQuote c then
      match afterLineEnd? rest with
      | some after => some after
      | none => afterQuotedLine? rest
    else afterQuotedLine? rest

/-- What follows an import declaration that the text begins with. It is cut where a quote ends a
line, whatever stands before. -/
def afterDeclaration? (text : Text) : Option Text :=
  match Text.dropPrefix? keyword text.trimStart with
  | some rest => if Text.atWordEnd rest then afterQuotedLine? rest else none
  | none => none

/-- Takes up to `n` import declarations off the front. -/
def stripUpTo : Nat → Text → Text
  | 0, text => text
  | n + 1, text =>
    match afterDeclaration? text with
    | some rest => stripUpTo n rest
    | none => text

/-- The script without the import declarations at its front. Each of them takes at least one
character, so the length bounds their number. -/
def stripLeading (script : Text) : Text := stripUpTo script.length script

end ComponentBundle.Import
