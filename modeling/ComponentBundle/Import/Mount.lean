import ComponentBundle.Text.Quoted

/-!
# Mounting

A compiled entry exports its component. For a preview that is to show it at once, the export gives
way to an instance mounted on the element that a selector finds.
-/
namespace ComponentBundle.Import

def exportLine : Text := "\nexport default ".toList

def mountLine (target : Text) : Text :=
  "\nnew Component(\x7b\n\ttarget: document.querySelector(".toList ++ target.quote ++
    ")\n\x7d);".toList

/-- The script with its first default export that is not alone on the rest of its line replaced by
`line`. -/
def replaceExport (line : Text) : Text → Text
  | [] => []
  | c :: rest =>
    match Text.dropPrefix? exportLine (c :: rest) with
    | some (d :: exported) =>
      if d = '\n' then c :: replaceExport line rest
      else line ++ exported.dropWhile (· ≠ '\n')
    | _ => c :: replaceExport line rest

/-- The script with its default export replaced by an instance mounted on `target`. -/
def mount (target script : Text) : Text := replaceExport (mountLine target) script

end ComponentBundle.Import
