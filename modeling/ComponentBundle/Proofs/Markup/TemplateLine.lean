import ComponentBundle.Proofs.Markup.Assembled
import ComponentBundle.Proofs.Markup.Discovery
import ComponentBundle.Proofs.Script.StringLiteral

/-!
# The line of the markup

A compiled component has its markup as one string on one line, behind its statements. Whatever the markup
is, it stays inside that string, and the line names no module. So what a component depends on is decided
by the bodies of its scripts: two components that agree about them agree about their imports.
-/
namespace ComponentBundle.Markup

variable {source other : Text} {file : Path} {output : MarkupOutput}

/-- The bodies of the scripts of a component, in the order of its source. -/
def scriptBodies (source : Text) : List Text := (blocks (pieces .script source)).map (·.body)

/-- The statements of a component, its import declarations first. -/
def statementTexts (source : Text) : List Text :=
  (declarations source).map (·.text) ++ otherStatements source

/-- The statements as they are emitted, each from a line of its own. -/
def statementLines (source : Text) : Text := (statementTexts source).flatMap (· ++ ['\n'])

theorem scriptBodies_eq (source : Text) :
    scriptBodies source = (blocksAfter [] (pieces .script source)).map (·.2.body) := by
  rw [scriptBodies, ← map_snd_blocksAfter [], List.map_map]
  rfl

theorem declarations_eq (source : Text) :
    declarations source = (scriptBodies source).flatMap Script.declarations := by
  rw [scriptBodies_eq, List.flatMap_map]
  rfl

theorem otherStatements_eq (source : Text) :
    otherStatements source = (scriptBodies source).flatMap Script.otherStatements := by
  rw [scriptBodies_eq, List.flatMap_map]
  rfl

theorem statementLines_congr (h : scriptBodies other = scriptBodies source) :
    statementLines other = statementLines source := by
  rw [statementLines, statementLines, statementTexts, statementTexts, declarations_eq,
    otherStatements_eq, h, ← declarations_eq, ← otherStatements_eq]

theorem script_compile_eq_templateStatement (h : compile source file = .ok output) :
    output.script = statementLines source ++
      (templateStatement (template source).quote ++ '\n' :: componentClass) := by
  rw [script_compile h, renderTemplate_eq]
  rfl

/-- The statement of the template is a line of its own, between those of the other statements and those
of the class. -/
theorem lines_script_compile (h : compile source file = .ok output) :
    output.script.lines = (statementTexts source).flatMap Text.lines ++
      templateStatement (template source).quote :: componentClass.lines := by
  have hline : (templateStatement (template source).quote).lines =
      [templateStatement (template source).quote] :=
    Text.splitOnChar_of_notMem (newline_notMem_templateStatement _)
  have hclass : (templateStatement (template source).quote ++ '\n' :: componentClass).lines =
      (templateStatement (template source).quote).lines ++ componentClass.lines :=
    Text.splitOnChar_append_separator _ _
  rw [script_compile_eq_templateStatement h, statementLines, Text.lines_flatMap, hclass, hline,
    List.singleton_append]

theorem specifiers_script_compile_eq (h : compile source file = .ok output) :
    Import.specifiers output.script = Import.specifiers (statementLines source) := by
  have hlines := Import.specifiers_flatMap_line (statementTexts source) []
  rw [List.append_nil] at hlines
  rw [script_compile h, Import.specifiers_flatMap_line, specifiers_renderTemplate, statementLines,
    hlines]
  rfl

/-- The markup of a component stays in one string on one line: the script is its statements, then that
line, then the class; no control character is on the line, and the string denotes the trimmed markup and
nothing else, whatever follows it. The imports that are found are those of the statements alone, so two
components whose scripts have the same bodies depend on the same modules. -/
theorem markup_stays_in_template (h : compile source file = .ok output) :
    (∃ literal,
        output.script =
          statementLines source ++ (templateStatement literal ++ '\n' :: componentClass) ∧
        output.script.lines =
          (statementTexts source).flatMap Text.lines ++
            templateStatement literal :: componentClass.lines ∧
        (∀ c ∈ templateStatement literal, 32 ≤ c.toNat) ∧
        ∀ value rest, Script.Denotes (literal ++ rest) value rest ↔ value = template source) ∧
      Import.specifiers output.script = Import.specifiers (statementLines source) ∧
      ∀ other file' output', compile other file' = .ok output' →
        scriptBodies other = scriptBodies source →
          Import.specifiers output'.script = Import.specifiers output.script := by
  refine ⟨⟨(template source).quote, script_compile_eq_templateStatement h, lines_script_compile h,
    fun c hc => le_toNat_of_mem_templateStatement hc,
    fun value rest => Script.denotes_quote_iff (template source) value rest⟩,
    specifiers_script_compile_eq h, ?_⟩
  intro other file' output' hother hbodies
  rw [specifiers_script_compile_eq hother, specifiers_script_compile_eq h,
    statementLines_congr hbodies]

def hostileMarkup : Text :=
  ("<script>import './a.js';</script>\n<p title=\"\\\">\";\nimport './evil.js';\n" ++
    "import \"./more.js\"\n</p><style>\nimport './style.js'\n</style>").toList

def scriptAlone : Text := "<script>import './a.js';</script>".toList

theorem markup_stays_in_template_hostileMarkup :
    ∃ output output' : MarkupOutput,
      compile hostileMarkup (.ofString "/App.svelte") = .ok output ∧
      compile scriptAlone (.ofString "/Alone.svelte") = .ok output' ∧
      Import.specifiers output.script = ["./a.js".toList] ∧
      Import.specifiers output'.script = Import.specifiers output.script ∧
      ∃ literal,
        output.script.lines = ["import './a.js';".toList] ++
          templateStatement literal :: componentClass.lines ∧
        Script.Denotes literal
          "<p title=\"\\\">\";\nimport './evil.js';\nimport \"./more.js\"\n</p>".toList [] := by
  obtain ⟨output, hcompile⟩ : ∃ output,
      compile hostileMarkup (.ofString "/App.svelte") = .ok output :=
    exists_output (by decide +kernel)
  obtain ⟨output', hcompile'⟩ : ∃ output',
      compile scriptAlone (.ofString "/Alone.svelte") = .ok output' :=
    exists_output (by decide +kernel)
  have hbodies : scriptBodies scriptAlone = scriptBodies hostileMarkup := by decide +kernel
  have htexts : (statementTexts hostileMarkup).flatMap Text.lines = ["import './a.js';".toList] := by
    decide +kernel
  have hnames : Import.specifiers (statementLines hostileMarkup) = ["./a.js".toList] := by
    decide +kernel
  have hmarkup : template hostileMarkup =
      "<p title=\"\\\">\";\nimport './evil.js';\nimport \"./more.js\"\n</p>".toList := by
    decide +kernel
  obtain ⟨⟨literal, -, hlines, -, hdenotes⟩, hspecifiers, hagree⟩ := markup_stays_in_template hcompile
  refine ⟨output, output', hcompile, hcompile', hspecifiers.trans hnames,
    hagree _ _ _ hcompile' hbodies, literal, ?_, ?_⟩
  · rw [hlines, htexts]
  · have hwhole := (hdenotes _ []).mpr hmarkup.symm
    rwa [List.append_nil] at hwhole

end ComponentBundle.Markup
