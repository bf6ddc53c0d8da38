import ComponentBundle.Standard

/-!
# The command line

What the arguments of the command mean, what it prints and how it ends. Reading and printing are left
to the caller.
-/
namespace ComponentBundle.CommandLine

structure Arguments where
  input : Path
  moduleDirectory : Option Path := none
  runtime : Option Path := none
  stripImports : Bool := false
  autoMount : Bool := false
  target : Text := "body".toList
  pretty : Bool := false

/-- What arguments ask for. -/
inductive Request where
  | run (arguments : Arguments)
  | help
  | version
  | misuse

/-- Options met so far; one that takes a value or is a flag may be met once. -/
structure Met where
  input : Option Text := none
  moduleDirectory : Option Text := none
  runtime : Option Text := none
  target : Option Text := none
  stripImports : Bool := false
  autoMount : Bool := false
  pretty : Bool := false

/-- The options that take a value. -/
inductive Valued where
  | moduleDirectory
  | runtime
  | target

/-- Gives a valued option its value, unless it has one. A path cannot be empty. -/
def Met.setValue? (met : Met) : Valued → Text → Option Met
  | .moduleDirectory, value =>
    if met.moduleDirectory.isSome ∨ value = [] then none
    else some { met with moduleDirectory := some value }
  | .runtime, value =>
    if met.runtime.isSome ∨ value = [] then none else some { met with runtime := some value }
  | .target, value => if met.target.isSome then none else some { met with target := some value }

/-- Takes the entry, unless there is one. -/
def Met.setInput? (met : Met) (value : Text) : Option Met :=
  if met.input.isSome ∨ value = [] then none else some { met with input := some value }

/-- Sets a flag by its long name, unless it is set. -/
def Met.setFlag? (met : Met) (name : Text) : Option Met :=
  if name = "strip-imports".toList then
    if met.stripImports then none else some { met with stripImports := true }
  else if name = "auto-mount".toList then
    if met.autoMount then none else some { met with autoMount := true }
  else if name = "pretty".toList then
    if met.pretty then none else some { met with pretty := true }
  else none

def valued? (name : Text) : Option Valued :=
  if name = "module-dir".toList then some .moduleDirectory
  else if name = "runtime".toList then some .runtime
  else if name = "target".toList then some .target
  else none

/-- What a letter of a group of short options asks for. -/
inductive Short where
  | help
  | version
  | pretty
  | unknown

def Short.ofChar (c : Char) : Short :=
  if c = 'h' then .help else if c = 'V' then .version else if c = 'p' then .pretty else .unknown

def shortGroup (met : Met) : Text → Request ⊕ Met
  | [] => .inr met
  | c :: rest =>
    match Short.ofChar c with
    | .help => .inl .help
    | .version => .inl .version
    | .unknown => .inl .misuse
    | .pretty =>
      match met.setFlag? "pretty".toList with
      | some met => shortGroup met rest
      | none => .inl .misuse

/-- The request of what was met; without an entry it is none. -/
def Met.request (met : Met) : Request :=
  match met.input with
  | none => .misuse
  | some input =>
    .run {
      input := ⟨input⟩
      moduleDirectory := met.moduleDirectory.map Path.mk
      runtime := met.runtime.map Path.mk
      stripImports := met.stripImports
      autoMount := met.autoMount
      target := met.target.getD "body".toList
      pretty := met.pretty }

/-- Whether an argument cannot be the value of an option: it looks like an option itself. -/
def looksLikeOption (argument : Text) : Bool := argument.head? == some '-' && argument ≠ ['-']

/-- Reads the arguments behind two hyphens, which are all entries. -/
def parseInputs (met : Met) : List Text → Request
  | [] => met.request
  | input :: rest =>
    match met.setInput? input with
    | some met => parseInputs met rest
    | none => .misuse

def parseFrom : Met → List Text → Request
  | met, [] => met.request
  | met, argument :: rest =>
    match argument with
    | ['-', '-'] => parseInputs met rest
    | '-' :: '-' :: option =>
      let name := option.takeWhile (· ≠ '=')
      let attached := (option.dropWhile (· ≠ '=')).tail?
      match valued? name, attached with
      | some valued, some value =>
        match met.setValue? valued value with
        | some met => parseFrom met rest
        | none => .misuse
      | some valued, none =>
        match rest with
        | [] => .misuse
        | value :: rest =>
          if looksLikeOption value then .misuse
          else
            match met.setValue? valued value with
            | some met => parseFrom met rest
            | none => .misuse
      | none, some _ => .misuse
      | none, none =>
        if name = "help".toList then .help
        else if name = "version".toList then .version
        else
          match met.setFlag? name with
          | some met => parseFrom met rest
          | none => .misuse
    | '-' :: c :: group =>
      match shortGroup met (c :: group) with
      | .inl request => request
      | .inr met => parseFrom met rest
    | input =>
      match met.setInput? input with
      | some met => parseFrom met rest
      | none => .misuse

def parse (arguments : List Text) : Request := parseFrom {} arguments

def versionText : Text := "preview-bundle 0.1.0\n".toList

def helpText : Text :=
  ("Bundle a component and its imports for live preview\n\n" ++
    "Usage: preview-bundle [OPTIONS] <FILE>\n\n" ++
    "Arguments:\n" ++
    "  <FILE>  Entry component file\n\n" ++
    "Options:\n" ++
    "      --module-dir <DIR>  Package module directory (defaults to the nearest node_modules)\n" ++
    "      --runtime <FILE>    Runtime-support script injected under the reserved breadcrumb\n" ++
    "      --strip-imports     Drop leading imports from the entry script\n" ++
    "      --auto-mount        Mount the entry component instead of exporting it\n" ++
    "      --target <TARGET>   DOM selector used with --auto-mount [default: body]\n" ++
    "  -p, --pretty            Pretty-print the JSON output\n" ++
    "  -h, --help              Print help\n" ++
    "  -V, --version           Print version\n").toList

structure Outcome where
  exitCode : Nat
  output : Text

/-- Bundles the entry that the arguments name; the entry and the runtime script must be readable. -/
def run (arguments : Arguments) (tree : FileTree) : Outcome :=
  match tree.read? arguments.input with
  | none => ⟨2, []⟩
  | some source =>
    match arguments.runtime.map tree.read? with
    | some none => ⟨2, []⟩
    | runtime =>
      let bundler : Bundler := { compiler := .standard, runtime := runtime.bind id }
      let bundle := bundler.generate ⟨tree, []⟩ source arguments.input {
        moduleDirectory := arguments.moduleDirectory
        stripImports := arguments.stripImports
        autoMount := arguments.autoMount
        mountTarget := arguments.target }
      let json := bundle.toJson
      ⟨if bundle.hasErrors then 1 else 0,
        (if arguments.pretty then json.pretty 0 else json.compact) ++ ['\n']⟩

/-- Carries a request out on a tree. -/
def Request.outcome (tree : FileTree) : Request → Outcome
  | .run arguments => CommandLine.run arguments tree
  | .help => ⟨0, helpText⟩
  | .version => ⟨0, versionText⟩
  | .misuse => ⟨2, []⟩

end ComponentBundle.CommandLine
