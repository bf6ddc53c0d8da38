import ComponentBundle.Script.Identifier
import ComponentBundle.Script.Outline
import ComponentBundle.Script.Syntax

/-!
# Tokens

The tokens of a script. Names and marks are told apart by their text, so a parser asks for a mark or a
word by writing it. A token knows which bytes it takes and whether a line ends in front of it.
-/
namespace ComponentBundle.Script

/-- What a token is. -/
inductive TokenKind where
  | finish
  | unknown
  | word
  | mark
  | number (value : Decimal)
  | bigint
  | string
  /-- A template without values, or the part in front of its first value. -/
  | template (isWhole : Bool)
  | hidden
  deriving DecidableEq

structure Token where
  kind : TokenKind
  /-- The word, the mark, the text that a string denotes, or a part of a template as written. -/
  text : String
  start : Nat
  stop : Nat
  newline : Bool
  escaped : Bool := false
  isPlain : kind = .word → IsPlain text

def reservedWords : List String :=
  ["break", "case", "catch", "class", "const", "continue", "debugger", "default", "delete", "do",
    "else", "enum", "export", "extends", "false", "finally", "for", "function", "if", "import", "in",
    "instanceof", "new", "null", "return", "super", "switch", "this", "throw", "true", "try",
    "typeof", "var", "void", "while", "with"]

/-- The words that have a meaning in some places and are names in others. -/
def contextualWords : List String :=
  ["async", "from", "get", "meta", "of", "set", "accessor", "abstract", "as", "asserts", "assert",
    "any", "bigint", "boolean", "constructor", "declare", "defer", "infer", "intrinsic", "is",
    "keyof", "module", "namespace", "never", "number", "object", "out", "readonly", "require",
    "satisfies", "source", "string", "symbol", "target", "type", "undefined", "unique", "using",
    "unknown", "global", "override", "await", "let", "static", "yield", "implements", "interface",
    "package", "private", "protected", "public"]

namespace Token

def isMark (token : Token) (mark : String) : Bool := token.kind == .mark && token.text == mark

def isWord (token : Token) (word : String) : Bool := token.kind == .word && token.text == word

/-- Whether the token is some word. -/
def isName (token : Token) : Bool := token.kind == .word

/-- The name that the token is if it is a word. -/
def name (token : Token) (h : token.isName = true) : Identifier :=
  ⟨token.text, token.isPlain (eq_of_beq h)⟩

/-- Whether the token is a word that can be the name of a binding. -/
def isBindable (token : Token) : Bool := token.kind == .word && !reservedWords.contains token.text

/-- Whether the token is a word that has a meaning somewhere. -/
def isKeyword (token : Token) : Bool :=
  token.kind == .word && (reservedWords.contains token.text || contextualWords.contains token.text)

def isString (token : Token) : Bool := token.kind == .string

def isNumber (token : Token) : Bool :=
  match token.kind with
  | .number _ => true
  | _ => false

def display (token : Token) : String :=
  match token.kind with
  | .finish => "EOF"
  | .unknown => "Unknown"
  | .word =>
    if token.isKeyword then token.text else "Identifier"
  | .mark => token.text
  | .number _ => "number"
  | .bigint => "bigint"
  | .string => "string"
  | .template true => "template"
  | .template false => "$\x7b"
  | .hidden => "#identifier"

end Token

end ComponentBundle.Script
