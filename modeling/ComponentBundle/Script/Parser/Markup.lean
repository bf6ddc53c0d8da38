import ComponentBundle.Script.Lexer

/-!
# Markup in scripts

Where a script may not hold markup, only its end has to be found.
-/
namespace ComponentBundle.Script

def markupName (text : Text) : Text :=
  text.takeWhile fun c => Text.isIdentifierPart c || c == '-' || c == '.' || c == ':'

def skipBlank (text : Text) : Text := text.dropWhile Text.isBlank

/-- What follows the closing brace of an expression whose opening brace is `depth` braces out. -/
def behindBrace? : (depth : Nat) → Text → Option Text
  | _, [] => none
  | depth, '\x7b' :: rest => behindBrace? (depth + 1) rest
  | 0, '\x7d' :: rest => some rest
  | depth + 1, '\x7d' :: rest => behindBrace? depth rest
  | depth, _ :: rest => behindBrace? depth rest

/-- What follows the attributes of an element and its closing mark, and whether it has no content. -/
def behindAttributes? : (n : Nat) → Text → Option (Bool × Text)
  | 0, _ => none
  | n + 1, text =>
    match skipBlank text with
    | '/' :: '>' :: rest => some (true, rest)
    | '>' :: rest => some (false, rest)
    | '\x7b' :: rest => behindBrace? 0 rest >>= behindAttributes? n
    | text =>
      let name := markupName text
      if name = [] then none
      else
        match skipBlank (text.drop name.length) with
        | '=' :: value =>
          match skipBlank value with
          | '"' :: rest => behindAttributes? n ((rest.dropWhile (· ≠ '"')).drop 1)
          | '\'' :: rest => behindAttributes? n ((rest.dropWhile (· ≠ '\'')).drop 1)
          | '\x7b' :: rest => behindBrace? 0 rest >>= behindAttributes? n
          | _ => none
        | rest => behindAttributes? n rest

/-- What follows elements that are open, given by their names from the inside, within `n` steps. -/
def behindElements? : (n : Nat) → (names : List Text) → Text → Option Text
  | 0, _, _ => none
  | n + 1, names, text =>
    match text with
    | '<' :: '/' :: rest =>
      let name := markupName (skipBlank rest)
      match names, skipBlank ((skipBlank rest).drop name.length) with
      | found :: outer, '>' :: after =>
        if found ≠ name then none
        else if outer = [] then some after
        else behindElements? n outer after
      | _, _ => none
    | '<' :: rest =>
      let name := markupName (skipBlank rest)
      match behindAttributes? n ((skipBlank rest).drop name.length) with
      | some (isClosed, after) =>
        if isClosed then
          if name = [] then none
          else if names = [] then some after
          else behindElements? n names after
        else behindElements? n (name :: names) after
      | none => none
    | '\x7b' :: rest => behindBrace? 0 rest >>= behindElements? n names
    | '>' :: _ | '\x7d' :: _ => none
    | _ :: rest => behindElements? n names rest
    | [] => none

def markupEnd? (text : Text) : Option Text := behindElements? (text.length + 1) [] text

end ComponentBundle.Script
