import ComponentBundle.Proofs.Import.MountLine
import ComponentBundle.Proofs.Markup.Hoisted
import ComponentBundle.Proofs.Script.StringLiteral

/-!
# Mounted components

The export of a compiled component is on its last line, and mounting replaces the first line behind
another one that reads like an export. So the component is mounted exactly if no such line is among those
of its statements, in a template literal or a comment; otherwise that line is lost and the export stays.
The selector is one string that denotes the target, whatever the target is.
-/
namespace ComponentBundle.Markup

open Import (IsExport below mount mountLine)

variable {source : Text} {file : Path} {output : MarkupOutput} {before front line : Text}

/-- The export of a compiled component. -/
def ownExport : Text := "export default Component;".toList

/-- The script of a component in front of its export. -/
def beforeExport (source : Text) : Text := layout (written source).dropLast

/-- The lines of the statements of a component, without the first one. -/
def followingLines (source : Text) : List Text :=
  (((declarations source).map (·.text) ++ otherStatements source).flatMap Text.lines).tail

theorem isExport_ownExport : IsExport ownExport := by decide

theorem newline_notMem_ownExport : '\n' ∉ ownExport := by decide

theorem mount_append_below (hbefore : ∀ line ∈ before.lines.tail, ¬IsExport line)
    (hline : '\n' ∉ line) (hexport : IsExport line) (behind : List Text) (target : Text) :
    mount target (before ++ below (line :: behind)) = before ++ mountLine target ++ below behind := by
  obtain ⟨first, hlines, hfront⟩ := Import.exists_eq_append_below before
  have hnewline (text : Text) (htext : text ∈ before.lines) : '\n' ∉ text :=
    Text.notMem_of_mem_splitOnChar htext
  have hfirst : '\n' ∉ first := hnewline first (by rw [hlines]; exact List.mem_cons_self)
  have hquiet : ∀ text ∈ before.lines.tail, '\n' ∉ text ∧ ¬IsExport text := fun text htext =>
    ⟨hnewline text (List.mem_of_mem_tail htext), hbefore text htext⟩
  calc mount target (before ++ below (line :: behind))
    _ = mount target (first ++ below (before.lines.tail ++ line :: behind)) := by
      rw [Import.below_append, ← List.append_assoc, ← hfront]
    _ = first ++ (below before.lines.tail ++ (mountLine target ++ below behind)) := by
      rw [mount, Import.replaceExport_append_of_notMem hfirst,
        Import.replaceExport_below_append hquiet, Import.replaceExport_below_cons hline hexport]
    _ = before ++ mountLine target ++ below behind := by
      rw [← List.append_assoc, ← hfront, List.append_assoc]

theorem exists_first_export (h : ∃ line ∈ front.lines.tail, IsExport line) :
    ∃ before line behind, front = before ++ below (line :: behind) ∧ line ∈ front.lines.tail ∧
      IsExport line ∧ ∀ line ∈ before.lines.tail, ¬IsExport line := by
  obtain ⟨first, hlines, hfront⟩ := Import.exists_eq_append_below front
  have hsome : (front.lines.tail.find? fun line => decide (IsExport line)).isSome :=
    List.find?_isSome.mpr (by simpa using h)
  obtain ⟨line, hline⟩ := Option.isSome_iff_exists.mp hsome
  obtain ⟨hexport, quiet, behind, htail, hquiet⟩ := List.find?_eq_some_iff_append.mp hline
  have hnewline (text : Text) (htext : text ∈ front.lines) : '\n' ∉ text :=
    Text.notMem_of_mem_splitOnChar htext
  have hbefore : Text.lines (first ++ below quiet) = first :: quiet := by
    refine Text.splitOnChar_append_flatMap (hnewline first ?_) fun text htext => hnewline text ?_
    · rw [hlines]
      exact List.mem_cons_self
    · exact List.mem_of_mem_tail (by simp [htail, htext])
  refine ⟨first ++ below quiet, line, behind, ?_, by simp [htail], by simpa using hexport, ?_⟩
  · rw [List.append_assoc, ← Import.below_append, ← htail]
    exact hfront
  · rw [hbefore]
    simpa using hquiet

theorem mount_ownExport_ne {behind : List Text} (front target : Text) :
    before ++ mountLine target ++ below (behind ++ [ownExport, []]) ≠
      front ++ mountLine target ++ ['\n'] := by
  -- The third character from the end tells the export and the mounted component apart.
  have hown : (below [ownExport, []]).reverse = '\n' :: ';' :: 't' ::
      ("\nexport default Componen".toList : Text).reverse := by decide
  have hclosing : (")\n\x7d);".toList : Text) = [')', '\n', '\x7d', ')', ';'] := by decide
  have hmount : ∃ text : Text, (mountLine target).reverse = ';' :: ')' :: text := by
    obtain ⟨opening, hopening⟩ : ∃ opening : Text,
        "\nnew Component(\x7b\n\ttarget: document.querySelector(".toList = opening := ⟨_, rfl⟩
    rw [Import.mountLine_eq hopening hclosing]
    simp
  obtain ⟨text, htext⟩ := hmount
  intro h
  have hreverse := congrArg List.reverse h
  simp only [Import.below_append, List.reverse_append, hown, htext] at hreverse
  simp at hreverse

/-- The last line is mounted exactly if no line in front of it, but for the first, reads like an
export. -/
theorem mount_ownExport_eq_iff (front target : Text) :
    mount target (front ++ below [ownExport, []]) = front ++ mountLine target ++ ['\n'] ↔
      ∀ line ∈ front.lines.tail, ¬IsExport line := by
  constructor
  · intro hmount line hline hexport
    obtain ⟨before, line, behind, hfront, hline, hexport, hquiet⟩ :=
      exists_first_export ⟨line, hline, hexport⟩
    have hnewline : '\n' ∉ line := Text.notMem_of_mem_splitOnChar (List.mem_of_mem_tail hline)
    have hlost := mount_append_below hquiet hnewline hexport (behind ++ [ownExport, []]) target
    rw [← List.cons_append, Import.below_append, ← List.append_assoc, ← hfront, hmount] at hlost
    exact mount_ownExport_ne front target hlost.symm
  · intro hquiet
    exact mount_append_below hquiet newline_notMem_ownExport isExport_ownExport [[]] target

theorem script_compile_eq_beforeExport (h : compile source file = .ok output) :
    output.script = beforeExport source ++ below [ownExport, []] := by
  have hwritten : written source = (written source).dropLast ++ [⟨1, ownExport⟩] := by
    have hsplit (statements : List Written) (a b c : Written) :
        statements ++ [a, b, c] = (statements ++ [a, b, c]).dropLast ++ [c] := by
      simp [List.dropLast_append_of_ne_nil]
    exact hsplit _ _ _ _
  have hlayout (statements : List Written) (text : Text) :
      layout (statements ++ [⟨1, text⟩]) = layout statements ++ below [text, []] := by
    simp [layout, below]
  rw [script_compile_eq_layout h, beforeExport, ← hlayout, ← hwritten]

theorem lines_beforeExport (source : Text) : (beforeExport source).lines =
    ((declarations source).map (·.text) ++ otherStatements source).flatMap Text.lines ++
      templateStatement (template source).quote :: [] :: (classText.lines ++ [[]]) := by
  have hsplit (texts : List Text) (a b c : Text) :
      layout (texts.map (⟨0, ·⟩) ++ [⟨0, a⟩, ⟨1, b⟩, ⟨1, c⟩] : List Written).dropLast =
        texts.flatMap (· ++ ['\n']) ++ ([a, [], b].flatMap (· ++ ['\n']) ++ []) := by
    simp [layout, List.dropLast_append_of_ne_nil, List.flatMap_map]
  have hline := newline_notMem_templateStatement (template source)
  have hgenerated (line : Text) (h : '\n' ∉ line) :
      [line, [], classText].flatMap Text.lines ++ Text.lines [] =
        line :: [] :: (classText.lines ++ [[]]) := by
    have hlines : line.lines = [line] := Text.splitOnChar_of_notMem h
    have hempty : Text.lines [] = [[]] := rfl
    simp [hlines, hempty]
  rw [beforeExport, written, generated, hsplit, Text.lines_flatMap, Text.lines_flatMap]
  exact congrArg _ (hgenerated _ hline)

theorem forall_tail_beforeExport_iff :
    (∀ line ∈ (beforeExport source).lines.tail, ¬IsExport line) ↔
      ∀ line ∈ followingLines source, ¬IsExport line := by
  have htemplate : ¬IsExport (templateStatement (template source).quote) := by
    obtain ⟨first, hfirst⟩ : ∃ first, Import.exportWords = 'e' :: first :=
      ⟨"xport default ".toList, by decide⟩
    obtain ⟨second, hsecond⟩ := exists_templateStatement_eq_cons (template source).quote
    rintro ⟨c, exported, h⟩
    rw [hfirst, hsecond] at h
    exact absurd (List.cons.inj h).1 (by decide)
  have hempty : ¬IsExport [] := by decide
  have hclass : ∀ line ∈ classText.lines, ¬IsExport line := by decide +kernel
  have hgenerated : ∀ line ∈ [] :: (classText.lines ++ [[]]), ¬IsExport line := by
    simpa [or_imp, forall_and, hempty] using hclass
  rw [lines_beforeExport, followingLines]
  cases ((declarations source).map (·.text) ++ otherStatements source).flatMap Text.lines with
  | nil => exact iff_of_true hgenerated (by simp)
  | cons first following =>
    rw [List.cons_append, List.tail_cons, List.tail_cons, List.forall_mem_append]
    exact and_iff_left (List.forall_mem_cons.mpr ⟨htemplate, hgenerated⟩)

/-- A component is mounted on its last line, and nothing else of its script changes, exactly if no line
of its statements but the first one reads like an export. If some line does, the first of them gives way
and the export stays. The selector is one string, which denotes the target. -/
theorem mount_compile_eq_iff (h : compile source file = .ok output) (target : Text) :
    output.script = beforeExport source ++ '\n' :: ownExport ++ ['\n'] ∧
      (mount target output.script = beforeExport source ++ mountLine target ++ ['\n'] ↔
        ∀ line ∈ followingLines source, ¬IsExport line) ∧
      ((∃ line ∈ followingLines source, IsExport line) →
        ∃ before line behind, IsExport line ∧
          output.script = before ++ below (line :: behind ++ [ownExport, []]) ∧
          mount target output.script =
            before ++ mountLine target ++ below (behind ++ [ownExport, []])) ∧
      ∀ value rest, Script.Denotes (target.quote ++ rest) value rest ↔ value = target := by
  have hscript := script_compile_eq_beforeExport h
  refine ⟨?own, ?mounted, ?lost, fun value rest => Script.denotes_quote_iff target value rest⟩
  case own =>
    rw [hscript, List.append_assoc]
    rfl
  case mounted => rw [hscript, mount_ownExport_eq_iff, forall_tail_beforeExport_iff]
  case lost =>
    intro hsome
    have hfront : ∃ line ∈ (beforeExport source).lines.tail, IsExport line := by
      have hnot := mt forall_tail_beforeExport_iff.mp fun hnone =>
        hsome.elim fun line hline => hnone line hline.1 hline.2
      simpa using hnot
    obtain ⟨before, line, behind, hbefore, hline, hexport, hquiet⟩ := exists_first_export hfront
    have hnewline : '\n' ∉ line := Text.notMem_of_mem_splitOnChar (List.mem_of_mem_tail hline)
    have hlines : output.script = before ++ below (line :: behind ++ [ownExport, []]) := by
      rw [hscript, hbefore, Import.below_append, List.append_assoc]
    refine ⟨before, line, behind, hexport, hlines, ?_⟩
    rw [hlines]
    exact mount_append_below hquiet hnewline hexport _ target

def indentedExport : Text :=
  "<script>let a = `\n export default b\n`;\nexport \x7b a \x7d;\n</script><p>a</p>".toList

theorem mount_compile_indentedExport :
    ∃ output, compile indentedExport (.ofString "/App.svelte") = .ok output ∧
      mount "#a\"\\\n$1".toList output.script =
        beforeExport indentedExport ++ mountLine "#a\"\\\n$1".toList ++ ['\n'] ∧
      otherStatements indentedExport =
        ["let a = `\n export default b\n`;".toList, "export \x7b a \x7d;".toList] := by
  obtain ⟨hisOk, hquiet, hothers⟩ :
      (compile indentedExport (.ofString "/App.svelte")).isOk = true ∧
        (∀ line ∈ followingLines indentedExport, ¬IsExport line) ∧
        otherStatements indentedExport =
        ["let a = `\n export default b\n`;".toList, "export \x7b a \x7d;".toList] := by
    decide +kernel
  obtain ⟨output, hcompile⟩ := exists_output hisOk
  exact ⟨output, hcompile, (mount_compile_eq_iff hcompile _).2.1.mpr hquiet, hothers⟩

def quotedExport : Text := "<script>let a = `\nexport default b\n`;</script>".toList

/-- A component is not always mounted in place of its export. -/
theorem mount_loses_line : ¬∀ source file output target, compile source file = .ok output →
    mount target output.script = beforeExport source ++ mountLine target ++ ['\n'] := by
  intro hall
  obtain ⟨hisOk, line, hline, hexport⟩ :
      (compile quotedExport (.ofString "/App.svelte")).isOk = true ∧
        ∃ line ∈ followingLines quotedExport, IsExport line := by
    decide +kernel
  obtain ⟨output, hcompile⟩ := exists_output hisOk
  have hmount := hall _ _ _ "body".toList hcompile
  rw [script_compile_eq_beforeExport hcompile, mount_ownExport_eq_iff,
    forall_tail_beforeExport_iff] at hmount
  exact hmount line hline hexport

end ComponentBundle.Markup
