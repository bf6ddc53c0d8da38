import ComponentBundle.Script.Parser.Program

/-!
# Statements of a script

An outline says of each statement only what a component needs. It comes from the statements that the
grammar finds, so it has the texts of the import declarations apart from the texts of all others, each
in the order of the script.
-/
namespace ComponentBundle.Script

/-- An import declaration as it is written, and the module that it names. -/
structure Declaration where
  text : Text
  specifier : Text
  deriving DecidableEq

def Stmt.toItem (stmt : Stmt) : Item := ⟨stmt.itemKind, stmt.start, stmt.stop⟩

def Stmt.declaration? (script : Text) (stmt : Stmt) : Option Declaration :=
  match stmt.node with
  | .importDecl _ _ source _ => some ⟨stmt.toItem.text script, source.toList⟩
  | _ => none

/-- The import declarations of a script without types. -/
def declarations (script : Text) : List Declaration :=
  match parse false script with
  | .ok program => program.body.filterMap (Stmt.declaration? script)
  | .error _ => []

/-- The other statements of a script without types, its directives first. -/
def otherStatements (script : Text) : List Text :=
  match parse false script with
  | .ok program =>
    program.directives.map (fun (start, stop, _) => Item.text script ⟨.directive, start, stop⟩) ++
      (program.body.filter fun stmt => (stmt.declaration? script).isNone).map fun stmt =>
        stmt.toItem.text script
  | .error _ => []

theorem kind_toItem_of_none {script : Text} {stmt : Stmt} (h : stmt.declaration? script = none) :
    stmt.toItem.kind ≠ .importDeclaration := by
  obtain ⟨start, stop, node⟩ := stmt
  cases node <;> simp_all [Stmt.toItem, Stmt.itemKind, Stmt.declaration?, Stmt.node]

theorem kind_toItem_of_some {script : Text} {stmt : Stmt} {declaration : Declaration}
    (h : stmt.declaration? script = some declaration) :
    stmt.toItem.kind = .importDeclaration ∧ stmt.toItem.text script = declaration.text := by
  obtain ⟨start, stop, node⟩ := stmt
  cases node <;>
    simp_all [Stmt.toItem, Stmt.itemKind, Stmt.declaration?, Stmt.node, Stmt.start, Stmt.stop]
  simp [← h]

theorem importTexts_toItem (script : Text) (body : List Stmt) :
    ((body.map Stmt.toItem).filter fun item => item.kind = .importDeclaration).map
        (Item.text script) =
      (body.filterMap (Stmt.declaration? script)).map (·.text) := by
  induction body with
  | nil => rfl
  | cons stmt body ih =>
    cases h : stmt.declaration? script with
    | none => simpa [h, kind_toItem_of_none h] using ih
    | some declaration =>
      obtain ⟨hkind, htext⟩ := kind_toItem_of_some h
      simpa [h, hkind, htext] using ih

theorem otherTexts_toItem (script : Text) (body : List Stmt) :
    ((body.map Stmt.toItem).filter fun item => item.kind ≠ .importDeclaration).map
        (Item.text script) =
      (body.filter fun stmt => (stmt.declaration? script).isNone).map fun stmt =>
        stmt.toItem.text script := by
  induction body with
  | nil => rfl
  | cons stmt body ih =>
    cases h : stmt.declaration? script with
    | none => simpa [h, kind_toItem_of_none h] using ih
    | some declaration => simpa [h, (kind_toItem_of_some h).1] using ih

/-- An outline has the import declarations of a script apart from its other statements. -/
theorem texts_outline {script : Text} {items : List Item} (h : outline script = .ok items) :
    (items.filter fun item => item.kind = .importDeclaration).map (Item.text script) =
        (declarations script).map (·.text) ∧
      (items.filter fun item => item.kind ≠ .importDeclaration).map (Item.text script) =
        otherStatements script := by
  cases hparse : parse false script with
  | error failure => simp [outline, hparse, Bind.bind, Except.bind] at h
  | ok program =>
    let directives := program.directives.map fun (start, stop, _) =>
      (⟨.directive, start, stop⟩ : Item)
    have hitems : items = directives ++ program.body.map Stmt.toItem := by
      rw [outline, hparse] at h
      exact (Except.ok.inj h).symm
    have hkind : ∀ item ∈ directives, item.kind ≠ .importDeclaration := by
      intro item hitem
      obtain ⟨⟨start, stop, directive⟩, -, rfl⟩ := List.mem_map.mp hitem
      exact nofun
    constructor
    · rw [hitems, List.filter_append, List.filter_eq_nil_iff.mpr (by simpa using hkind),
        List.nil_append, importTexts_toItem, declarations, hparse]
    · rw [hitems, List.filter_append, List.filter_eq_self.mpr (by simpa using hkind),
        List.map_append, otherTexts_toItem, otherStatements, hparse, List.map_map]
      rfl

end ComponentBundle.Script
