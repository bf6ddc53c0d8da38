import ComponentBundle.Script.Printer.Writer

/-!
# Printing expressions

Parentheses are printed where the place of an expression asks for them and nowhere else, except that
a function which has been put into parentheses keeps them.
-/
namespace ComponentBundle.Script.Printer

variable (w : Writer)

def key : Key → String
  | .name text => text
  | .string text => Literal.string text
  | .number value => Literal.number value
  | .computed value => "[" ++ w.value value ++ "]"
  | .hidden text => "#" ++ text

/-- Whether the pattern is a name that is its own key, possibly with a default. -/
def isOwnKey : Key → Pattern → Bool
  | .name text, .ident name | .name text, .default (.ident name) _ => text == name
  | _, _ => false

/-- A field of a pattern. A name that is bound and its own key is written once. -/
def field (binds : Bool) (found : Field) : String :=
  if found.isShort || (binds && isOwnKey found.key found.pattern) then w.pattern binds found.pattern
  else key w found.key ++ ": " ++ w.pattern binds found.pattern

/-- A pattern that binds its names, or one that is assigned to. -/
def pattern (binds : Bool) : Pattern → String
  | .ident name => name
  | .target value => w.value value
  | .object fields rest =>
    match fields.map (field w binds) ++ rest.toList.map ("..." ++ w.pattern binds ·) with
    | [] => "\x7b\x7d"
    | items => if binds then "\x7b " ++ listed items ++ " \x7d" else "\x7b" ++ listed items ++ "\x7d"
  | .array items rest =>
    let texts := items.map fun found => (found.map (w.pattern binds)).getD ""
    let last := if rest.isNone && (items.getLast?.any Option.isNone) then "," else ""
    "[" ++ listed (texts ++ rest.toList.map ("..." ++ w.pattern binds ·)) ++ last ++ "]"
  | .default found value => w.pattern binds found ++ " = " ++ w.value value

def parameters (function : Function) : String :=
  "(" ++ listed (function.params.map w.binding ++
    function.rest.toList.map ("..." ++ w.binding ·)) ++ ")"

/-- The body of a function in braces. Comments that are all there is between them stay there if no
line ends around them. -/
def functionBody (function : Function) : String :=
  let directives := function.directives.map fun text =>
    w.inner.indent ++ Literal.directive text ++ ";\n"
  let lines := String.join directives ++ w.inner.statements function.body
  let found := if function.close = 0 then [] else w.found function.close
  if found.isEmpty then w.braces lines
  else if lines.isEmpty && found.all fun found => !found.afterNewline && !found.beforeNewline then
    "\x7b" ++ String.join (found.map fun found => w.commentText found.text) ++ "\x7d"
  else w.behind ("\x7b\n" ++ lines ++ w.inner.commentsAt function.close) "\x7d"

def function (found : Function) : String :=
  (if found.isAsync then "async " else "") ++ "function" ++
    (if found.isGenerator then "* " else if found.name.isSome then " " else "") ++
    found.name.getD "" ++ parameters w found ++ " " ++ functionBody w found

def arrow (forbidsIn : Bool) (found : Function) : String :=
  let head := (if found.isAsync then "async " else "") ++ parameters w found ++ " => "
  match found.isShort, found.body with
  | true, [.mk _ _ (.expression value)] =>
    head ++ w.expr { Place.at .comma with lead := .arrow, forbidsIn } value
  | _, _ => head ++ functionBody w found

/-- A method: what stands in front of its key, the key, and the function. -/
def method (kind : MethodKind) (name : Key) (found : Function) : String :=
  (match kind with | .get => "get " | .set => "set " | _ => "") ++
    (if found.isAsync then "async " else "") ++ (if found.isGenerator then "*" else "") ++
    key w name ++ parameters w found ++ " " ++ functionBody w found

/-- Whether the value is a name that is its own key, possibly in parentheses. -/
def isOwnName (text : String) : Expr → Bool
  | .ident name => text == name
  | .paren value => isOwnName text value
  | _ => false

/-- A member of an object. A name that is its own key is written once. -/
def member : Member → String
  | .field (.name text) value =>
    if isOwnName text value && text != "__proto__" then text else text ++ ": " ++ w.value value
  | .field name value => key w name ++ ": " ++ w.value value
  | .short name => name
  | .cover name value _ => name ++ " = " ++ w.value value
  | .method kind name found => method w kind name found
  | .spread value => "..." ++ w.value value

/-- An object. More than one member stand on lines of their own. -/
def object (members : List Member) : String :=
  match members with
  | [] => "\x7b\x7d"
  | [only] => "\x7b " ++ member w only ++ " \x7d"
  | members => "\x7b" ++ w.itemLines (members.map (member w.inner)) ++ "\x7d"

def element : Element → String
  | .hole | .comments _ => ""
  | .item value => w.value value
  | .spread value => "..." ++ w.value value

def isHole : Element → Bool
  | .hole => true
  | _ => false

/-- An array. More than two items stand on lines of their own. -/
def array (items : List Element) : String :=
  let last := if items.getLast?.any isHole then "," else ""
  if items.length ≤ 2 then "[" ++ listed (items.map (element w)) ++ last ++ "]"
  else
    "[\n" ++ ",\n".intercalate (items.map fun item => w.inner.indent ++ element w.inner item) ++ last ++
      "\n" ++ w.indent ++ "]"

def decorators (found : List Expr) : String :=
  String.join (found.map fun value => "@" ++ w.expr (.at .update) value ++ " ")

def classMember : ClassMember → String
  | .method start found isStatic kind name function _ =>
    w.line start <| decorators w found ++ (if isStatic then "static " else "") ++
      method w kind name function
  | .field start found isStatic isAccessor name value =>
    w.line start <| decorators w found ++ (if isStatic then "static " else "") ++
      (if isAccessor then "accessor " else "") ++ key w name ++
      ((value.map fun value => " = " ++ w.value value).getD "") ++ ";"
  | .block start body => w.line start ("static " ++ w.block body)

def classText (found : Class) : String :=
  decorators w found.decorators ++ "class" ++ ((found.name.map (" " ++ ·)).getD "") ++
    ((found.base.map fun base => " extends " ++ w.expr (.at .update) base).getD "") ++ " " ++
    w.braces (String.join (found.members.map (classMember w.inner)))

def template (parts : List String) (values : List Expr) : String :=
  let values := values.map fun value => "$\x7b" ++ w.whole value ++ "\x7d"
  let texts := parts.map Literal.templatePart
  let pairs := (texts.zip (values ++ [""])).map fun (part, value) => part ++ value
  "`" ++ String.join pairs ++ "`"

/-- Arguments of which some have comments in front of them, each on lines of its own; `isFirst`
tells that no argument is in front of them. -/
def argumentLines (isFirst : Bool) : List Element → String
  | [] => "\n"
  | .comments token :: rest =>
    let lines := (w.found token).map fun found => "\n" ++ w.indent ++ w.commentText found.text
    match rest with
    | [] => String.join lines ++ "\n"
    | item :: rest =>
      (if isFirst then "" else ",") ++ String.join lines ++ "\n" ++ w.indent ++
        element w (withoutComments token item) ++ argumentLines false rest
  | item :: rest =>
    (if isFirst then "" else ",") ++ "\n" ++ w.indent ++ element w item ++ argumentLines false rest
where
  withoutComments (token : Nat) : Element → Element
    | .item (.commented place value) => if place = token then .item value else .item (.commented place value)
    | item => item

def argumentList (items : List Element) : String :=
  let hasComments := items.any fun
    | .comments _ => true
    | _ => false
  if hasComments then "(" ++ argumentLines w.inner true items ++ w.indent ++ ")"
  else "(" ++ listed (items.map (element w)) ++ ")"

def pureMark : String := "/* @__PURE__ */ "

def quietMark : String := "/* @__NO_SIDE_EFFECTS__ */"

/-- An operator in front of its value, with a blank where two marks would be taken for one. -/
def prefixed (operator : String) (text : String) : String :=
  let isWord := operator.toList.any Char.isAlpha
  let isSame := (operator == "+" || operator == "-") && text.toList.head? == operator.toList.head?
  operator ++ (if isWord || isSame then " " else "") ++ text

/-- Whether the text is a number that a point would belong to. -/
def endsWithDigits (text : String) : Bool :=
  text.toList.all Char.isDigit && !text.isEmpty

def beforePoint (place : Place) (value : Expr) : String :=
  let text := w.expr { place.first .update with forbidsCall := place.forbidsCall } value
  if endsWithDigits text then text ++ " " else text

def isObjectPattern : Pattern → Bool
  | .object .. => true
  | _ => false

def target (place : Place) : Pattern → String
  | .target value => w.expr (place.first .comma) value
  | found => w.pattern false found

/-- Whether the value is of the operator, which may be repeated in any order, possibly in
parentheses. -/
def isRepeated (operator : String) : Expr → Bool
  | .binary inner _ _ => inner == operator && (operator == "&&" || operator == "||")
  | .paren value => isRepeated operator value
  | _ => false

def expr (place : Place) : Expr → String
  | .ident name => name
  | .this => "this"
  | .super => "super"
  | .null => "null"
  | .bool value => if value then "true" else "false"
  | .number value => Literal.number value
  | .bigint text _ => text
  | .string text => Literal.string text
  | .regex found flags => "/" ++ found ++ "/" ++ flags
  | .template parts values => template w parts values
  | .tagged tag parts values => w.expr (place.first .update) tag ++ template w parts values
  | .array items => array w items
  | .object members =>
    parenthesize (place.lead = .statement ∨ place.lead = .arrow) (object w members)
  | .function found =>
    let mark := if found.isQuiet then quietMark ++ " " else ""
    if found.isArrow then
      parenthesize (Level.assign ≤ place.level) (mark ++ arrow w place.forbidsIn found)
    else parenthesize (place.lead = .statement ∨ place.lead = .default) (mark ++ function w found)
  | .classExpr found =>
    parenthesize (place.lead = .statement ∨ place.lead = .default) (classText w found)
  | .unary operator value =>
    parenthesize (Level.unary ≤ place.level) (prefixed operator (w.expr (.at .exponent) value))
  | .update operator before value =>
    if before then
      parenthesize (Level.unary ≤ place.level) (prefixed operator (w.expr (.at .unary) value))
    else
      let isWrapped := Level.update ≤ place.level
      let place := if isWrapped then .at .update else place.first .update
      parenthesize isWrapped (w.expr place value ++ operator)
  | .binary operator left right =>
    let level := Level.ofOperator operator
    let isWrapped := level ≤ place.level || (operator == "in" && place.forbidsIn)
    let place := if isWrapped then .at level else place
    let isRight := operator == "**"
    let rightLevel := if isRight || isRepeated operator right then level - 1 else level
    parenthesize isWrapped <|
      w.expr (place.first (if isRight then level else level - 1)) left ++ " " ++ operator ++ " " ++
        w.expr { Place.at rightLevel with forbidsIn := place.forbidsIn } right
  | .assign operator left value =>
    let isObject := (place.lead = .statement || place.lead = .arrow) && isObjectPattern left
    let isWrapped := isObject || Level.assign ≤ place.level
    let place := if isWrapped then .at .comma else place
    parenthesize isWrapped <| target w place left ++ " " ++ operator ++ " " ++
      w.expr { Place.at .comma with forbidsIn := place.forbidsIn } value
  | .conditional test yes no =>
    let isWrapped := Level.conditional ≤ place.level
    let place := if isWrapped then .at .conditional else place
    parenthesize isWrapped <| w.expr (place.first .conditional) test ++ " ? " ++
      w.expr (.at .yield) yes ++ " : " ++
      w.expr { Place.at .yield with forbidsIn := place.forbidsIn } no
  | .call callee items isOptional isPure =>
    let isWrapped := Level.construct ≤ place.level || place.forbidsCall ||
      (isPure && Level.update ≤ place.level)
    let place := if isWrapped then .at .update else place
    parenthesize isWrapped <| (if isPure then pureMark else "") ++ w.expr (place.first .update) callee ++
      (if isOptional then "?." else "") ++ argumentList w items
  | .new callee items isPure =>
    let isWrapped := Level.call ≤ place.level || (isPure && Level.update ≤ place.level)
    parenthesize isWrapped <| (if isPure then pureMark else "") ++ "new " ++
      w.expr { Place.at .construct with forbidsCall := true } callee ++ argumentList w items
  | .member base name isOptional =>
    beforePoint w place base ++ (if isOptional then "?." else ".") ++ name
  | .hiddenMember base name isOptional =>
    beforePoint w place base ++ (if isOptional then "?.#" else ".#") ++ name
  | .index base name isOptional =>
    w.expr { place.first .update with forbidsCall := place.forbidsCall } base ++
      (if isOptional then "?.[" else "[") ++ w.whole name ++ "]"
  | .chain value => w.expr place value
  | .sequence values =>
    let isWrapped := Level.comma ≤ place.level
    let place := if isWrapped then .at .comma else place
    let texts := match values with
      | [] => []
      | first :: rest => w.expr (place.first .comma) first :: rest.map fun value =>
        w.expr { Place.at .comma with forbidsIn := place.forbidsIn } value
    parenthesize isWrapped (listed texts)
  | .yield isAll value =>
    parenthesize (Level.assign ≤ place.level) <| "yield" ++ (if isAll then "*" else "") ++
      ((value.map fun value => " " ++ w.expr (.at .yield) value).getD "")
  | .await value _ =>
    parenthesize (Level.unary ≤ place.level) ("await " ++ w.expr (.at .exponent) value)
  | .importCall items =>
    parenthesize (Level.construct ≤ place.level || place.forbidsCall) ("import" ++ argumentList w items)
  | .metaProperty text => text
  | .hiddenName name => "#" ++ name
  | .paren (.function found) =>
    "(" ++ w.expr (.at .lowest) (.function found) ++ ")"
  | .paren value => w.expr place value
  | .commented token value =>
    let found := w.found token
    let start := if found.any fun found => found.afterNewline then "\n" ++ w.indent else ""
    parenthesize true (w.behind (w.comments start found) (w.expr (.at .lowest) value))

end ComponentBundle.Script.Printer
