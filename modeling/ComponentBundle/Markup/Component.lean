import ComponentBundle.Markup.Attribute
import ComponentBundle.Markup.Block
import ComponentBundle.Script.Parser.Program
import ComponentBundle.Text.Quoted
import ComponentBundle.Unit

/-!
# Components

A component is split into scripts, styles and markup. It becomes a module whose default export shows
the markup: the imports of all scripts, then their other statements, then the markup as a string and a
class that puts it into a page.
-/
namespace ComponentBundle.Markup

def componentClass : Text :=
  ("\nclass Component \x7b\n\tconstructor(options) \x7b\n\t\tthis.target = options.target;\n" ++
    "\t\tthis.target.insertAdjacentHTML(\"beforeend\", template);\n\t\x7d\n\x7d\n\n" ++
    "export default Component;\n").toList

/-- The module text that shows a template, given as it is written in a script. -/
def renderTemplate (template : Text) : Text :=
  "const template = ".toList ++ template ++ ";\n".toList ++ componentClass

/-- The places of the blocks of a tag, in characters from the beginning: first and behind last. -/
def blockRanges (blocks : List (Text × Block)) : List (Nat × Nat) :=
  blocks.map fun (before, found) => (before.length, before.length + found.text.length)

def isInside (ranges : List (Nat × Nat)) (place : Nat) : Bool :=
  ranges.any fun range => range.1 ≤ place && place < range.2

/-- The first place, counted on from `place`, where a tag opens outside the ranges. -/
def openingOutside? (name : Text) (ranges : List (Nat × Nat)) : (place : Nat) → Text → Option Nat
  | _, [] => none
  | place, c :: rest =>
    if (afterOpening? name (c :: rest)).isSome && !isInside ranges place then some place
    else openingOutside? name ranges (place + 1) rest

/-- Fails if a tag opens and no block begins there. -/
def checkClosed (source : Text) (tag : Tag) : Except CompileFailure Unit :=
  match openingOutside? tag.name (blockRanges (blocksAfter [] (pieces tag source))) 0 source with
  | none => .ok ()
  | some place =>
    .error ⟨'<' :: tag.name ++ "> must have a closing tag".toList,
      some (.after (source.take place))⟩

/-- The statements of scripts: imports apart from the others. -/
structure Statements where
  imports : List Text := []
  others : List Text := []

/-- Adds the statements of a script that follows `before` in the component. -/
def addScript (source before script : Text) (found : Statements) :
    Except CompileFailure Statements :=
  let place (offset : Nat) : Position := .ofOffset source (before.byteLength + offset)
  match Script.outline script with
  | .error failure => .error ⟨failure.message, failure.offset.map place⟩
  | .ok items =>
    match items.find? fun item => item.kind = .defaultExport with
    | some item =>
      .error ⟨"A component cannot have a default export".toList, some (place item.first)⟩
    | none =>
      .ok {
        imports := found.imports ++
          (items.filter fun item => item.kind = .importDeclaration).map (·.text script)
        others := found.others ++
          (items.filter fun item => item.kind ≠ .importDeclaration).map (·.text script) }

def statements (source : Text) (blocks : List (Text × Block)) :
    Except CompileFailure Statements :=
  blocks.foldlM (fun found (before, block) =>
    addScript source (before ++ block.opening ++ block.attributes ++ ['>']) block.body found) {}

def style (blocks : List (Text × Block)) : Text :=
  Text.joinWith ['\n'] ((blocks.map fun (_, block) => block.body.trim).filter (· ≠ []))

/-- The markup of a component: what is left without its scripts, then without the styles in that. -/
def template (source : Text) : Text :=
  (outside (pieces .style (outside (pieces .script source)))).trim

def missingAlt : Text := "A11y: <img> element should have an alt attribute".toList

/-- The places of image tags that have no alternative text, counted on from `place`, at most `n`
tags and characters between them. Tags inside the ranges are passed over. -/
def imagesWithoutAlt (scripts : List (Nat × Nat)) : (n place : Nat) → Text → List Nat
  | 0, _, _ => []
  | _ + 1, _, [] => []
  | n + 1, place, c :: rest =>
    match afterOpening? "img".toList (c :: rest) with
    | none => imagesWithoutAlt scripts n (place + 1) rest
    | some after =>
      let attributes := after.takeWhile (· ≠ '>')
      match after.dropWhile (· ≠ '>') with
      | [] => []
      | _ :: content =>
        let found := imagesWithoutAlt scripts n (place + 5 + attributes.length) content
        if isInside scripts place || ((Attributes.ofText attributes).get? "alt".toList).isSome then
          found
        else place :: found

def imageWarnings (source : Text) (scripts : List (Nat × Nat)) (file : Path) : List Diagnostic :=
  (imagesWithoutAlt scripts source.length 0 source).map fun place =>
    (Diagnostic.warning (.after (source.take place)) missingAlt).inFile file

def compile : MarkupCompiler := fun source file => do
  let scripts := blocksAfter [] (pieces .script source)
  let styles := blocksAfter [] (pieces .style source)
  checkClosed source .script
  checkClosed source .style
  let found ← statements source scripts
  pure {
    script := (found.imports ++ found.others).flatMap (· ++ ['\n']) ++
      renderTemplate (template source).quote
    style := style styles
    warnings := imageWarnings source (blockRanges scripts) file }

end ComponentBundle.Markup
