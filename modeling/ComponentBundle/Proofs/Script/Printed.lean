import ComponentBundle.Proofs.Script.Toolchain

/-!
# The parts of a printed script

A script is printed statement by statement, each on lines of its own. An import is on one line, whatever
it binds and however its module is called: a name has no quotes, and the text of a string is spelled
without line feeds.
-/
namespace ComponentBundle.Script

open Import

theorem IsPlain.isBare {text : String} (h : IsPlain text) : IsBare text.toList := by
  intro c hc
  have hname := h c hc
  constructor
  · intro hquote
    obtain rfl | rfl : c = '"' ∨ c = '\'' := by simpa [isQuote] using hquote
    · exact absurd hname (by decide)
    · exact absurd hname (by decide)
  · rintro rfl
    exact absurd hname (by decide)

theorem isBare_listed {texts : List String} (h : ∀ text ∈ texts, IsBare text.toList) :
    IsBare (listed texts).toList := by
  have hcomma : IsBare ", ".toList := by simp [IsBare, isQuote]
  induction texts with
  | nil => exact nofun
  | cons text texts ih =>
    obtain ⟨htext, htexts⟩ := List.forall_mem_cons.mp h
    cases texts with
    | nil => simpa [listed] using htext
    | cons next texts =>
      rw [listed, String.intercalate_cons_cons, String.toList_append, String.toList_append,
        isBare_append, isBare_append]
      exact ⟨⟨htext, hcomma⟩, ih htexts⟩

theorem isBare_nameList {names : List String} (h : ∀ name ∈ names, IsBare name.toList) :
    IsBare (Printer.nameList names).toList := by
  have hopening : IsBare "\x7b ".toList := by simp [IsBare, isQuote]
  have hclosing : IsBare " \x7d".toList := by simp [IsBare, isQuote]
  rw [Printer.nameList]
  split
  · simp [IsBare, isQuote]
  · simp only [String.toList_append, isBare_append]
    exact ⟨⟨hopening, isBare_listed h⟩, hclosing⟩

/-- What the binding takes from a module is not written as a string. -/
def ImportBinding.TakesWord : ImportBinding → Prop
  | .named imported _ _ => imported.val.isString = false
  | .whole _ | .default _ => True

theorem isBare_importBindings {bindings : List ImportBinding}
    (h : ∀ binding ∈ bindings, binding.TakesWord) :
    IsBare (Printer.importBindings bindings).toList := by
  have has : IsBare " as ".toList := by simp [IsBare, isQuote]
  have hstar : IsBare "* as ".toList := by simp [IsBare, isQuote]
  refine isBare_listed fun text htext => ?_
  rcases List.mem_append.mp htext with hothers | hnamed
  · obtain ⟨binding, -, hbinding⟩ := List.mem_filterMap.mp hothers
    cases binding with
    | whole name =>
      obtain rfl := Option.some.inj hbinding
      rw [String.toList_append, isBare_append]
      exact ⟨hstar, name.isPlain.isBare⟩
    | default name =>
      obtain rfl := Option.some.inj hbinding
      exact name.isPlain.isBare
    | named imported name isType => cases hbinding
  · split at hnamed
    · obtain rfl := List.mem_singleton.mp hnamed
      refine isBare_nameList fun text htext => ?_
      obtain ⟨binding, hmem, hbinding⟩ := List.mem_filterMap.mp htext
      cases binding with
      | named imported name isType =>
        have hword : imported.val.isString = false := h _ hmem
        obtain rfl := Option.some.inj hbinding
        split
        · exact name.isPlain.isBare
        · simp only [Printer.moduleName, hword, String.toList_append, isBare_append]
          exact ⟨⟨(imported.property hword).isBare, has⟩, name.isPlain.isBare⟩
      | whole name => cases hbinding
      | default name => cases hbinding
    · cases hnamed

/-- A character is spelled by at least one, and not by a line feed. -/
theorem escapeString_ne_nil (c : Char) (rest : Text) :
    Literal.escapeString c rest ≠ [] ∧ '\n' ∉ Literal.escapeString c rest := by
  fun_cases Literal.escapeString c rest with
  | case17 =>
    have hc : c ≠ '\n' := by assumption
    simp [hc.symm]
  | _ => decide

/-- The text of a string is spelled on one line, whatever it is. -/
theorem newline_notMem_escapedString (text : Text) : '\n' ∉ Literal.escapedString text := by
  fun_induction Literal.escapedString text with
  | case1 => simp
  | case2 a b c d rest hunit ih => simp [ih]
  | case3 a b c d rest hunit ih => simp [ih]
  | case4 c rest hunit ih => simp [ih, (escapeString_ne_nil c rest).2]

theorem escapedString_ne_nil {text : Text} (h : text ≠ []) : Literal.escapedString text ≠ [] := by
  fun_induction Literal.escapedString text with
  | case1 => contradiction
  | case2 => simp
  | case3 => simp
  | case4 c rest hunit ih => simp [(escapeString_ne_nil c rest).1]

/-- What stands between the word of an import and its module. -/
def importFront (bindings : Option (List ImportBinding)) : Text :=
  ((bindings.map fun bindings => Printer.importBindings bindings ++ " from ").getD "").toList

theorem isBare_importFront {bindings : Option (List ImportBinding)}
    (h : ∀ binding ∈ bindings.getD [], binding.TakesWord) : IsBare (importFront bindings) := by
  cases bindings with
  | none => exact nofun
  | some bindings =>
    have hfrom : IsBare " from ".toList := by simp [IsBare, isQuote]
    simpa [importFront, isBare_append] using ⟨isBare_importBindings h, hfrom⟩

theorem toList_node_importDecl (w : Writer) (isType : Bool) (bindings : Option (List ImportBinding))
    (source : String) :
    (Printer.node w (.importDecl isType bindings source none)).toList ++ ['\n'] =
      importLine Literal.escapedString (importFront bindings) source.toList := by
  have hword : "import ".toList = keyword ++ [' '] := by decide
  have hnode : Printer.node w (.importDecl isType bindings source none) =
      "import " ++
        ((bindings.map fun bindings => Printer.importBindings bindings ++ " from ").getD "") ++
          Literal.string source ++ Printer.attributes none ++ ";" := rfl
  simp [hnode, Printer.attributes, Literal.string, importFront, importLine, hword]

theorem endsLine_eq_true_iff (text : String) :
    endsLine text = true ↔ text.toList ≠ [] ∧ EndsLine text.toList := by
  rw [endsLine, beq_iff_eq]
  rcases List.eq_nil_or_concat text.toList with h | ⟨front, c, h⟩ <;> simp [h, EndsLine]

theorem Writer.endsLine_line (w : Writer) (token : Nat) (text : String) :
    EndsLine (w.line token text).toList := by
  unfold Writer.line
  exact endsLine_iff.mpr (.inr ⟨_, String.toList_append⟩)

namespace Program

variable (program : Program)

def lineWriter : Writer :=
  ⟨program.comments, 0, phraseText program.comments (64 * (program.length + 64) - 1)⟩

/-- The lines of a statement of the script, with the comments in front of it. -/
def linesOf (stmt : Stmt) : Text := (Printer.line program.lineWriter stmt).toList

def commentsOf (stmt : Stmt) : Text := (program.lineWriter.commentsAt stmt.start).toList

def lastComments : Text := (program.lineWriter.commentsAt program.length).toList

/-- The lines of a directive, with the comments in front of it. -/
def linesOfDirective (directive : Nat × Nat × String) : Text :=
  (program.lineWriter.line directive.1 (Literal.directive directive.2.2 ++ ";")).toList

def firstLine : Text := ((program.hashbang.map fun line => "#!" ++ line ++ "\n").getD "").toList

theorem toList_text : program.text.toList =
    program.firstLine ++ (program.directives.flatMap program.linesOfDirective ++
      (program.body.flatMap program.linesOf ++ program.lastComments)) := by
  have hfuel : 64 * (program.length + 64) = 64 * (program.length + 64) - 1 + 1 := by omega
  have hbody : (Writer.statements
      ⟨program.comments, 0, phraseText program.comments (64 * (program.length + 64))⟩
      program.body).toList = program.body.flatMap program.linesOf := by
    rw [hfuel]
    simp only [Writer.statements, phraseText, String.toList_join, List.flatMap_map]
    rfl
  have hcomments (run : (depth : Nat) → Phrase → String) (token : Nat) :
      Writer.commentsAt ⟨program.comments, 0, run⟩ token = program.lineWriter.commentsAt token := rfl
  have hline (run : (depth : Nat) → Phrase → String) (token : Nat) (text : String) :
      Writer.line ⟨program.comments, 0, run⟩ token text = program.lineWriter.line token text := rfl
  simp only [text, String.toList_append, String.toList_join, List.flatMap_map, hbody, hline,
    hcomments, List.append_assoc]
  rfl

/-- What stands in front of a statement on its lines: its comments, with a blank behind them if they do
not end a line. -/
def leadOf (stmt : Stmt) : Text :=
  let comments := program.commentsOf stmt
  if EndsLine comments then comments else comments ++ [' ']

theorem exists_linesOf_eq (stmt : Stmt) : ∃ w : Writer,
    program.linesOf stmt = program.leadOf stmt ++ ((Printer.node w stmt.node).toList ++ ['\n']) := by
  -- The bound on how deep the script is printed leaves a step for the statement.
  have hfuel : 64 * (program.length + 64) - 1 = 64 * program.length + 4094 + 1 := by omega
  obtain ⟨w, hnode⟩ : ∃ w : Writer,
      program.lineWriter.statement stmt = Printer.node w stmt.node := by
    rw [lineWriter, hfuel]
    exact ⟨_, rfl⟩
  have hindent : program.lineWriter.indent = "" := rfl
  refine ⟨w, ?_⟩
  rw [linesOf, Printer.line, hnode, Writer.line, leadOf, commentsOf]
  by_cases hempty : program.lineWriter.commentsAt stmt.start = ""
  · simp [hempty, hindent, EndsLine]
  · have hne : (program.lineWriter.commentsAt stmt.start).isEmpty = false := by
      simpa using hempty
    by_cases hends : EndsLine (program.lineWriter.commentsAt stmt.start).toList
    · have hline := (endsLine_eq_true_iff _).mpr ⟨by simpa using hempty, hends⟩
      simp [hne, hends, Writer.behind, hline, hindent]
    · have hline : endsLine (program.lineWriter.commentsAt stmt.start) = false :=
        Bool.eq_false_iff.mpr fun h => hends ((endsLine_eq_true_iff _).mp h).2
      simp [hne, hends, Writer.behind, hline]

end Program

end ComponentBundle.Script
