import ComponentBundle.Path
import ComponentBundle.Style.Files

/-!
# Searching styles

Where an import without an extension leads: to a file next to the importing one or in the directory of
the component, whose name may begin with an underscore, or to the index of a directory.
-/
namespace ComponentBundle.Style.Files

/-- The file of a path, or the one whose name has an underscore in front. -/
def tryPath (files : Files) (p : Path) : Option Path :=
  let name := p.fileName?.getD "..".toList
  let part := (p.parent?.getD ⟨[]⟩).join ⟨'_' :: name⟩
  if files.isFile p then some p
  else if files.isFile part then some part
  else none

def tried : List Text :=
  ["import.sass", "import.scss", "import.css", "sass", "scss", "css"].map String.toList

def tryExtensions (files : Files) (p : Path) : Option Path :=
  tried.findSome? fun ending => files.tryPath (p.withExtension ending)

def tryIndex (files : Files) (p : Path) : Option Path :=
  (files.tryExtensions p).or
    (if files.isDirectory p then files.tryExtensions (p.join ⟨"index".toList⟩) else none)

/-- The file that an import leads to. An import with an extension is only looked for as it is. -/
def search (files : Files) (file directory : Option Path) (name : Text) : Option Path :=
  let near := ((file.bind Path.parent?).getD ⟨[]⟩).join ⟨name⟩
  match near.extension? with
  | some ending =>
    if extensions.contains ending then
      (files.tryPath (Path.withExtension ⟨name⟩ (".import".toList ++ ending))).or
        (files.tryPath ⟨name⟩)
    else other near
  | none => other near
where
  /-- The search next to the importing file and in the directory. -/
  other (near : Path) : Option Path :=
    (files.tryIndex near).or (directory.bind fun directory => files.tryIndex (directory.join ⟨name⟩))

end ComponentBundle.Style.Files
