import ComponentBundle.Markup.Component
import ComponentBundle.Proofs.Script.Outline
import Mathlib.Tactic.SplitIfs

/-!
# The script of a component

What a component is compiled to has the import declarations of all its scripts in front, then the other
statements, each from a line of its own, and then what shows the markup. The markup is on one line.
-/
namespace ComponentBundle.Markup

/-- The import declarations of the scripts of a component, in the order of its source. -/
def declarations (source : Text) : List Script.Declaration :=
  (blocksAfter [] (pieces .script source)).flatMap fun (_, block) => Script.declarations block.body

/-- The other statements of the scripts of a component. -/
def otherStatements (source : Text) : List Text :=
  (blocksAfter [] (pieces .script source)).flatMap fun (_, block) =>
    Script.otherStatements block.body

theorem addScript_eq {source before script : Text} {found result : Statements}
    (h : addScript source before script found = .ok result) :
    result.imports = found.imports ++ (Script.declarations script).map (·.text) ∧
      result.others = found.others ++ Script.otherStatements script := by
  rw [addScript] at h
  split at h
  · cases h
  · rename_i items houtline
    obtain ⟨himports, hothers⟩ := Script.texts_outline houtline
    split at h
    · cases h
    · obtain rfl := Except.ok.inj h
      exact ⟨congrArg _ himports, congrArg _ hothers⟩

/-- The statements of a component are those of its scripts. -/
theorem statements_eq {source : Text} {blocks : List (Text × Block)} {found result : Statements}
    (h : blocks.foldlM (fun found (before, block) =>
      addScript source (before ++ block.opening ++ block.attributes ++ ['>']) block.body found)
      found = .ok result) :
    result.imports = found.imports ++ (blocks.flatMap fun (_, block) =>
        Script.declarations block.body).map (·.text) ∧
      result.others = found.others ++ blocks.flatMap fun (_, block) =>
        Script.otherStatements block.body := by
  induction blocks generalizing found with
  | nil =>
    obtain rfl := Except.ok.inj h
    simp
  | cons head blocks ih =>
    obtain ⟨before, block⟩ := head
    cases hnext : addScript source (before ++ block.opening ++ block.attributes ++ ['>']) block.body
        found with
    | error failure =>
      simp only [List.foldlM_cons, hnext] at h
      cases h
    | ok next =>
      simp only [List.foldlM_cons, hnext] at h
      obtain ⟨himports, hothers⟩ := addScript_eq hnext
      obtain ⟨himports', hothers'⟩ := ih h
      constructor
      · simp [himports', himports]
      · simp [hothers', hothers]

private theorem le_toNat_hexDigit : ∀ n < 16, 32 ≤ (Text.hexDigit n).toNat := by
  decide

private theorem le_toNat_of_mem_escape {c d : Char} (h : d ∈ Text.escape c) : 32 ≤ d.toNat := by
  have hsign (sign : Char) (hsign : 32 ≤ sign.toNat) (h : d ∈ ['\\', sign]) : 32 ≤ d.toNat := by
    simp only [List.mem_cons, List.not_mem_nil, or_false] at h
    rcases h with rfl | rfl
    · decide
    · exact hsign
  rw [Text.escape] at h
  split_ifs at h
  · exact hsign '"' (by decide) h
  · exact hsign '\\' (by decide) h
  · exact hsign 'n' (by decide) h
  · exact hsign 'r' (by decide) h
  · exact hsign 't' (by decide) h
  · exact hsign 'b' (by decide) h
  · exact hsign 'f' (by decide) h
  · have hhigh := le_toNat_hexDigit (c.toNat / 16) (by omega)
    have hlow := le_toNat_hexDigit (c.toNat % 16) (by omega)
    simp only [List.mem_cons, List.not_mem_nil, or_false] at h
    rcases h with rfl | rfl | rfl | rfl | rfl | rfl
    all_goals first | assumption | decide
  · rename_i hcontrol
    rw [List.mem_singleton.mp h]
    exact Nat.not_lt.mp hcontrol

/-- A text between quotes has no control characters in it, whatever it is. -/
theorem le_toNat_of_mem_quote {text : Text} {d : Char} (h : d ∈ text.quote) : 32 ≤ d.toNat := by
  simp only [Text.quote, List.cons_append, List.mem_cons, List.mem_append, List.mem_flatMap,
    List.not_mem_nil, or_false] at h
  rcases h with rfl | ⟨c, -, hescape⟩ | rfl
  · decide
  · exact le_toNat_of_mem_escape hescape
  · decide

/-- So it is on one line. -/
theorem newline_notMem_quote (text : Text) : '\n' ∉ text.quote :=
  fun h => absurd (le_toNat_of_mem_quote h) (by decide)

/-- The statement that gives the template its value, written as `literal`. -/
def templateStatement (literal : Text) : Text := "const template = ".toList ++ literal ++ [';']

theorem templateStatement_eq (literal : Text) :
    templateStatement literal = "const template = ".toList ++ literal ++ [';'] := rfl

theorem renderTemplate_eq (literal : Text) :
    renderTemplate literal = templateStatement literal ++ '\n' :: componentClass := by
  have hend : ";\n".toList = [';', '\n'] := by decide
  have hjoin (front rest : Text) : front ++ [';', '\n'] ++ rest = front ++ [';'] ++ '\n' :: rest := by
    simp
  calc renderTemplate literal
    _ = "const template = ".toList ++ literal ++ [';', '\n'] ++ componentClass :=
      congrArg ("const template = ".toList ++ literal ++ · ++ componentClass) hend
    _ = templateStatement literal ++ '\n' :: componentClass := hjoin _ _

theorem exists_templateStatement_eq_cons (literal : Text) :
    ∃ rest, templateStatement literal = 'c' :: rest := by
  obtain ⟨word, hword⟩ : ∃ word, "const template = ".toList = 'c' :: word :=
    ⟨"onst template = ".toList, by decide⟩
  refine ⟨word ++ literal ++ [';'], ?_⟩
  rw [templateStatement_eq, hword, List.cons_append, List.cons_append]

theorem le_toNat_of_mem_templateStatement {text : Text} {d : Char}
    (h : d ∈ templateStatement text.quote) : 32 ≤ d.toNat := by
  have hfront : "const template = ".toList.all (32 ≤ ·.toNat) = true := by decide
  rcases List.mem_append.mp h with h | h
  · rcases List.mem_append.mp h with h | h
    · simpa using List.all_eq_true.mp hfront d h
    · exact le_toNat_of_mem_quote h
  · rw [List.mem_singleton.mp h]
    decide

theorem newline_notMem_templateStatement (text : Text) : '\n' ∉ templateStatement text.quote :=
  fun h => absurd (le_toNat_of_mem_templateStatement h) (by decide)

/-- What is compiled has its tags closed, and it is made of the statements of the scripts, of the styles and of
the images without a description. -/
theorem exists_of_compile {source : Text} {file : Path} {output : MarkupOutput}
    (h : compile source file = .ok output) : ∃ found,
      checkClosed source .script = .ok () ∧ checkClosed source .style = .ok () ∧
        statements source (blocksAfter [] (pieces .script source)) = .ok found ∧
        output = {
          script := (found.imports ++ found.others).flatMap (· ++ ['\n']) ++
            renderTemplate (template source).quote
          style := style (blocksAfter [] (pieces .style source))
          warnings := imageWarnings source (blockRanges (blocksAfter [] (pieces .script source))) file } := by
  simp only [compile, Bind.bind, Except.bind] at h
  split at h
  · cases h
  rename_i hscript
  split at h
  · cases h
  rename_i hstyle
  split at h
  · cases h
  rename_i found hfound
  exact ⟨found, hscript, hstyle, hfound, (Except.ok.inj h).symm⟩

theorem checkClosed_of_compile {source : Text} {file : Path} {output : MarkupOutput}
    (h : compile source file = .ok output) (tag : Tag) : checkClosed source tag = .ok () := by
  obtain ⟨found, hscript, hstyle, -⟩ := exists_of_compile h
  cases tag with
  | script => exact hscript
  | style => exact hstyle

/-- A compiled component has the import declarations of its scripts in front, then their other
statements, each behind the last line of the one before. -/
theorem script_compile {source : Text} {file : Path} {output : MarkupOutput}
    (h : compile source file = .ok output) :
    output.script =
      ((declarations source).map (·.text) ++ otherStatements source).flatMap (· ++ ['\n']) ++
        renderTemplate (template source).quote := by
  obtain ⟨found, -, -, hfound, rfl⟩ := exists_of_compile h
  obtain ⟨himports, hothers⟩ := statements_eq hfound
  simp only [himports, hothers, List.nil_append]
  rfl

theorem style_compile {source : Text} {file : Path} {output : MarkupOutput}
    (h : compile source file = .ok output) :
    output.style = style (blocksAfter [] (pieces .style source)) := by
  obtain ⟨found, -, -, -, rfl⟩ := exists_of_compile h
  rfl

theorem warnings_compile {source : Text} {file : Path} {output : MarkupOutput}
    (h : compile source file = .ok output) : output.warnings =
      imageWarnings source (blockRanges (blocksAfter [] (pieces .script source))) file := by
  obtain ⟨found, -, -, -, rfl⟩ := exists_of_compile h
  rfl

theorem exists_output {source : Text} {file : Path}
    (h : (compile source file).isOk = true) : ∃ output, compile source file = .ok output := by
  cases hcompile : compile source file with
  | error failure =>
    rw [hcompile] at h
    cases h
  | ok output => exact ⟨output, rfl⟩

end ComponentBundle.Markup
