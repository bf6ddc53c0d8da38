import ComponentBundle.Style.Evaluate.Interpreter

/-!
# Arguments of calls

How arguments meet parameters. Arguments by place come first; lists and maps at the end of a call
stand for more arguments. A call fails if arguments by name are left that nobody asks for.
-/
namespace ComponentBundle.Style.Eval

variable (i : Interpreter) (c : Context)

/-- Adds an argument by name, which replaces another one of its name. -/
def addNamed (named : List (String × Value)) (name : String) (value : Value) :
    List (String × Value) :=
  if named.any fun (other, _) => other == name then
    named.map fun (other, old) => (other, if other == name then value else old)
  else named ++ [(name, value)]

def keySpans (t : Term) : List Span :=
  match t.node with
  | .map pairs => pairs.map fun (key, _) => key.span
  | .paren (.mk _ (.map pairs)) => pairs.map fun (key, _) => key.span
  | _ => []

def addPairs (named : List (String × Value)) (pairs : List (Value × Value)) (t : Term)
    (span : Span) : Eval (List (String × Value)) :=
  pairs.zipIdx.foldlM (fun named ((key, value), n) =>
    match key with
    | .string name _ =>
      return addNamed named (name.map fun ch => if ch = '_' then '-' else ch) value.withoutQuotient
    | _ =>
      stop "Variable keyword argument map must have string keys." ((keySpans t).getD n span)) named

def access (number : Nat) : Eval Unit := modify fun s => { s with accessed := number :: s.accessed }

def passed (arguments : Arguments) (span : Span) : Eval Given := do
  let .mk whole positional named rest keywords := arguments
  let positional ← positional.mapM fun t => do return (← i.term c t).withoutQuotient
  let named ← named.mapM fun (name, t) => do return (name, (← i.term c t).withoutQuotient)
  let some rest := rest | return { positional, named, span }
  let (positional, named) ← match ← i.term c rest with
    | .map pairs => do pure (positional, ← addPairs named pairs rest whole)
    | .arguments items given number =>
      access number
      pure (positional ++ items.map Value.withoutQuotient,
        given.foldl (fun named (name, value) => addNamed named name value) named)
    | .list items _ _ => pure (positional ++ items.map Value.withoutQuotient, named)
    | value => pure (positional ++ [value.withoutQuotient], named)
  let some keywords := keywords | return { positional, named, span := whole }
  match ← i.term c keywords with
  | .map pairs => return { positional, named := ← addPairs named pairs keywords whole, span := whole }
  | value => stop ("Variable keyword arguments must be a map (was " ++ value.shown ++ ").") whole

/-- Requires that so many arguments by place, and those by name, fit parameters. -/
def verify (parameters : Parameters) (count : Nat) (named : List String) (span : Span) :
    Eval Unit := do
  for (p, n) in parameters.items.zipIdx do
    let isNamed := named.contains p.name
    if n < count then
      if isNamed then
        stop ("Argument $" ++ p.name ++ " was passed both by position and by name.") span
    else if !isNamed && p.default.isNone then stop ("Missing argument $" ++ p.name ++ ".") span
  if parameters.rest.isNone then
    let most := parameters.items.length
    if most < count then
      stop ("Only " ++ toString most ++ " " ++ (if named.isEmpty then "" else "positional ") ++
        (if most = 1 then "argument" else "arguments") ++ " allowed, but " ++ toString count ++ " " ++
        (if count = 1 then "was" else "were") ++ " passed.") span
    let unknown := named.filter fun name => !parameters.items.any fun p => p.name == name
    if !unknown.isEmpty then stop (unknownNames unknown) span

/-- Gives the arguments to the parameters in the frame of the context, and runs what they are for. -/
def withArguments {α : Type} (parameters : Parameters) (g : Given) (run : Eval α) : Eval α := do
  verify parameters g.positional.length (g.named.map (·.1)) g.span
  let owner := c.scopes.headD 0
  for (parameter, n) in parameters.items.zipIdx do
    let value ← match g.positional[n]?, g.named.lookup parameter.name, parameter.default with
      | some value, _, _ | none, some value, _ => pure value
      | none, none, some t => do pure (← i.term c t).withoutQuotient
      | none, none, none => pure Value.null
    define owner parameter.name value
  let some rest := parameters.rest | run
  let items := g.positional.drop parameters.items.length
  let named := g.named.filter fun (name, _) => !parameters.items.any fun p => p.name == name
  let number := (← get).argumentLists
  modify fun s => { s with argumentLists := number + 1 }
  define owner rest (.arguments items named number)
  let result ← run
  if !named.isEmpty && !(← get).accessed.contains number then
    stop (unknownNames (named.map (·.1))) g.span
  return result

def callWritten (f : Callable) (g : Given) (span : Span) : Eval Value := do
  let inner ← inFrame { c with scopes := f.scopes, isInFunction := true, content := none } false
  withArguments i inner f.parameters g do
    match ← i.body inner f.body with
    | some value => return value.withoutQuotient
    | none => stop "Function finished without @return." span

/-- A call of a function that the language does not know, as it is written. -/
def plainText (name : String) (texts : List String) (isNamed : Bool) (span : Span) : Eval Value := do
  if isNamed then stop "Plain CSS functions don't support keyword arguments." span
  return .plain (name ++ "(" ++ ", ".intercalate texts ++ ")")

/-- A call of a function that the language does not know, whose arguments have not been evaluated. -/
def plainCall (name : String) (arguments : Arguments) (span : Span) : Eval Value := do
  let .mk _ positional named rest keywords := arguments
  let texts ← (positional ++ rest.toList).mapM fun t => css i c t span
  plainText name texts (!named.isEmpty || keywords.isSome) span

def choose (arguments : Arguments) : Eval Value := do
  let .mk span positional named _ _ := arguments
  let parameters : Parameters :=
    { items := ["condition", "if-true", "if-false"].map fun name => ⟨name, none⟩ }
  verify parameters positional.length (named.map (·.1)) span
  let argument (place : Nat) (name : String) : Eval Value := do
    match (positional[place]?).or (named.lookup name) with
    | some t => i.term c t
    | none => return .null
  let value ← if (← argument 0 "condition").isTruthy then argument 1 "if-true"
    else argument 2 "if-false"
  return value.withoutQuotient

end ComponentBundle.Style.Eval
