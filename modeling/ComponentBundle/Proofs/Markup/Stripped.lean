import ComponentBundle.Proofs.Import.Strip
import ComponentBundle.Proofs.Markup.Emitted
import Mathlib.Data.List.Basic

/-!
# The script of a component without its imports

What is stripped from a script is told by its quotes, and a component has its import declarations
written by its author. They are stripped one with the next until a quote ends a line, whatever follows
the module of a declaration, and so is what begins with the word `import` behind them. So exactly the
declarations go if the last one ends in the quote behind its module and what follows begins otherwise.
-/
namespace ComponentBundle

namespace Import

variable {text front declaration : Text} {declarations : List Text}

/-- Whether a text begins with the word `import`, blanks apart. -/
def opensImport (text : Text) : Bool := (Text.dropPrefix? keyword text.trimStart).any Text.atWordEnd

/-- Whether a quote ends the last line of a text. -/
def EndsQuoted (text : Text) : Prop :=
  ∃ q back, q :: back <:+ text ∧ isQuote q ∧ afterLineEnd? (back ++ ['\n']) = some []

/-- A declaration in which no line but the last one can end in a quote. -/
structure IsSteady (declaration : Text) : Prop where
  opens : opensImport declaration = true
  eq_nil : ∀ rest, afterQuotedLine? (declaration ++ ['\n']) = some rest → rest = []

private theorem not_isQuote_of_mem_keyword : ∀ c ∈ keyword, ¬isQuote c := by
  rw [keyword, String.toList_ofList]
  simp [isQuote]

theorem opensImport_eq_true_iff : opensImport text = true ↔
    ∃ back, text.trimStart = keyword ++ back ∧ Text.atWordEnd back = true := by
  rw [opensImport, Option.any_eq_true]
  exact exists_congr fun back => and_congr_left' Text.dropPrefix?_eq_some_iff

theorem afterDeclaration?_of_not_opens (h : opensImport text = false) :
    afterDeclaration? text = none := by
  rw [afterDeclaration?]
  rw [opensImport] at h
  cases hdrop : Text.dropPrefix? keyword text.trimStart with
  | none => rfl
  | some back => simp_all

/-- A declaration ends where the first quote ends a line, wherever that is. -/
theorem afterDeclaration?_of_opens (h : opensImport front = true) (rest : Text) :
    afterDeclaration? (front ++ '\n' :: rest) = afterQuotedLine? (front ++ '\n' :: rest) := by
  obtain ⟨back, htrim, hend⟩ := opensImport_eq_true_iff.mp h
  have hblank : ∀ c ∈ front.takeWhile Text.isBlank, ¬isQuote c := by
    intro c hc hquote
    have hblank : Text.isBlank c := List.all_eq_true.mp List.all_takeWhile c hc
    rcases (by simpa [isQuote] using hquote : c = '"' ∨ c = '\'') with rfl | rfl
    · exact absurd hblank (by decide)
    · exact absurd hblank (by decide)
  have hfront : front = front.takeWhile Text.isBlank ++ (keyword ++ back) := by
    rw [← htrim, Text.trimStart, List.takeWhile_append_dropWhile]
  have hquoted : afterQuotedLine? (front ++ '\n' :: rest) =
      afterQuotedLine? (back ++ '\n' :: rest) := by
    rw [hfront, List.append_assoc, List.append_assoc,
      afterQuotedLine?_append_of_forall_not hblank,
      afterQuotedLine?_append_of_forall_not not_isQuote_of_mem_keyword]
  have hcut : Text.trimStart (front ++ '\n' :: rest) = keyword ++ (back ++ '\n' :: rest) := by
    rw [Text.trimStart] at htrim
    rw [Text.trimStart, List.dropWhile_append, htrim, ← List.append_assoc]
    rfl
  have hword : Text.atWordEnd (back ++ '\n' :: rest) = true := by
    cases back with
    | nil => rfl
    | cons c back => exact hend
  rw [afterDeclaration?, Text.dropPrefix?_eq_some_iff.mpr hcut, hquoted]
  exact if_pos hword

theorem EndsQuoted.afterQuotedLine?_ne_none (h : EndsQuoted text) :
    afterQuotedLine? (text ++ ['\n']) ≠ none := by
  obtain ⟨q, back, ⟨front, rfl⟩, hq, hback⟩ := h
  intro hnone
  have hsuffix : q :: (back ++ ['\n']) <:+ front ++ q :: back ++ ['\n'] :=
    ⟨front, by simp⟩
  have hhere := afterQuotedLine?_eq_none_of_suffix hnone hsuffix
  rw [afterQuotedLine?_cons, if_pos hq, hback] at hhere
  cases hhere

theorem exists_of_afterQuotedLine?_eq_nil (h : afterQuotedLine? text = some []) :
    ∃ q back, q :: back <:+ text ∧ isQuote q ∧ afterLineEnd? back = some [] := by
  induction text with
  | nil => cases h
  | cons c text ih =>
    rw [afterQuotedLine?_cons, Option.or_eq_some_iff] at h
    rcases h with hhere | ⟨-, hlater⟩
    · by_cases hc : isQuote c
      · rw [if_pos hc] at hhere
        exact ⟨c, text, List.suffix_rfl, hc, hhere⟩
      · rw [if_neg hc] at hhere
        cases hhere
    · obtain ⟨q, back, hback, hq, hend⟩ := ih hlater
      exact ⟨q, back, hback.trans (List.suffix_cons c text), hq, hend⟩

theorem newline_notMem_of_afterLineEnd? {back : Text}
    (h : afterLineEnd? (back ++ ['\n']) = some []) : '\n' ∉ back := by
  intro hmem
  obtain ⟨before, behind, rfl⟩ := List.append_of_mem hmem
  rw [List.append_assoc, List.cons_append, afterLineEnd?_append_newline,
    Option.map_eq_some_iff] at h
  obtain ⟨rest, -, hrest⟩ := h
  simp at hrest

/-- A quote that ends the last of some lines is in that line. -/
theorem endsQuoted_of_suffix {q : Char} {back : Text} (hfront : ∀ c ∈ front.getLast?, c = '\n')
    (h : q :: back <:+ front ++ text ++ ['\n']) (hq : isQuote q)
    (hback : afterLineEnd? back = some []) : EndsQuoted text := by
  rcases List.suffix_concat_iff.mp h with hnil | ⟨line, hline, hsuffix⟩
  · cases hnil
  cases line with
  | nil =>
    obtain ⟨rfl, -⟩ := List.cons.inj hline
    exact absurd hq (by decide)
  | cons c inner =>
    obtain ⟨rfl, rfl⟩ := List.cons.inj hline
    refine ⟨q, inner, ?_, hq, hback⟩
    rcases List.suffix_or_suffix_of_suffix hsuffix (List.suffix_append front text) with hin | hover
    · exact hin
    -- A quote in front of the text would have the line feed before the text behind it.
    obtain ⟨before, hbefore⟩ := hover
    have hnewline : '\n' ∉ q :: inner := by
      have hne : '\n' ≠ q := by
        rintro rfl
        exact absurd hq (by decide)
      exact List.not_mem_cons_of_ne_of_not_mem hne (newline_notMem_of_afterLineEnd? hback)
    rw [← hbefore] at hsuffix hnewline ⊢
    have hfronts : before <:+ front := List.suffix_append_self_iff.mp hsuffix
    rcases List.eq_nil_or_concat' before with rfl | ⟨early, last, rfl⟩
    · exact List.suffix_rfl
    · obtain ⟨start, rfl⟩ := hfronts
      have hlast : last = '\n' := hfront last (by simp)
      simp [hlast] at hnewline

theorem exists_of_stripLeading_eq_nil (h : stripLeading text = []) :
    text = [] ∨ ∃ back, back <:+ text ∧ afterQuotedLine? back = some [] := by
  induction text using induction_on_declarations with
  | none text hnone => exact .inl (by rwa [stripLeading_of_none hnone] at h)
  | some text rest hsome ih =>
    refine .inr ?_
    obtain ⟨back, hback, hquoted⟩ := exists_quoted_of_afterDeclaration? hsome
    rw [stripLeading_of_some hsome] at h
    rcases ih h with rfl | ⟨later, hlater, hend⟩
    · exact ⟨back, hback, hquoted⟩
    · have hrest : rest <:+ text := by
        rcases (afterDeclaration?_eq_some hsome).2 with rfl | hsuffix
        · exact List.nil_suffix
        · exact (List.suffix_cons _ _).trans hsuffix
      exact ⟨later, hlater.trans hrest, hend⟩

def block (declarations : List Text) : Text := declarations.flatMap (· ++ ['\n'])

theorem block_cons (declaration : Text) (declarations : List Text) :
    block (declaration :: declarations) = declaration ++ '\n' :: block declarations := by
  simp [block]

theorem getLast?_block (declarations : List Text) : ∀ c ∈ (block declarations).getLast?, c = '\n' := by
  rcases List.eq_nil_or_concat' declarations with rfl | ⟨front, last, rfl⟩
  · simp [block]
  · simp [block]

theorem endsQuoted_of_stripLeading_block (h : stripLeading (block declarations) = []) :
    ∀ last ∈ declarations.getLast?, EndsQuoted last := by
  intro last hlast
  obtain ⟨front, rfl⟩ := List.getLast?_eq_some_iff.mp hlast
  have hblock : block (front ++ [last]) = block front ++ last ++ ['\n'] := by simp [block]
  rw [hblock] at h
  rcases exists_of_stripLeading_eq_nil h with hnil | ⟨rest, hrest, hend⟩
  · simp at hnil
  · obtain ⟨q, back, hback, hq, hline⟩ := exists_of_afterQuotedLine?_eq_nil hend
    exact endsQuoted_of_suffix (getLast?_block front) (hback.trans hrest) hq hline

/-- Nothing is left of declarations that end in quotes at most with their last lines exactly if the last
one of them does. -/
theorem stripLeading_block_eq_nil_iff (h : ∀ declaration ∈ declarations, IsSteady declaration) :
    stripLeading (block declarations) = [] ↔ ∀ last ∈ declarations.getLast?, EndsQuoted last := by
  refine ⟨endsQuoted_of_stripLeading_block, ?_⟩
  induction declarations with
  | nil => exact fun _ => rfl
  | cons declaration declarations ih =>
    intro hlast
    obtain ⟨⟨hopens, hsteady⟩, hlater⟩ := List.forall_mem_cons.mp h
    have hdeclaration := afterDeclaration?_of_opens hopens (block declarations)
    rw [afterQuotedLine?_append_newline, ← block_cons] at hdeclaration
    cases hline : afterQuotedLine? (declaration ++ ['\n']) with
    | some rest =>
      obtain rfl := hsteady rest hline
      rw [hline, Option.map_some, Option.some_or, List.nil_append] at hdeclaration
      rw [stripLeading_of_some hdeclaration]
      cases declarations with
      | nil => rfl
      | cons next declarations => exact ih hlater (by simpa using hlast)
    | none =>
      rw [hline, Option.map_none, Option.none_or] at hdeclaration
      cases declarations with
      | nil => exact absurd hline (hlast declaration rfl).afterQuotedLine?_ne_none
      | cons next declarations =>
        -- The search goes on in the next declaration, as if it began there.
        have hnext := afterDeclaration?_of_opens (hlater next List.mem_cons_self).opens
          (block declarations)
        rw [← block_cons] at hnext
        have hrest := ih hlater (by simpa using hlast)
        rw [← hnext] at hdeclaration
        cases hcut : afterDeclaration? (block (next :: declarations)) with
        | none =>
          rw [stripLeading_of_none hcut, block_cons] at hrest
          simp at hrest
        | some rest =>
          rw [stripLeading_of_some hcut] at hrest
          rw [stripLeading_of_some (hdeclaration.trans hcut), hrest]

/-- Stripping goes through lines of which nothing is left to what follows them. -/
theorem stripLeading_append_of_eq_nil (hlast : ∀ c ∈ text.getLast?, c = '\n')
    (h : stripLeading text = []) (rest : Text) : stripLeading (text ++ rest) = stripLeading rest := by
  induction text using induction_on_declarations with
  | none text hnone =>
    rw [stripLeading_of_none hnone] at h
    rw [h, List.nil_append]
  | some text later hsome ih =>
    rcases List.eq_nil_or_concat' text with rfl | ⟨front, last, rfl⟩
    · exact absurd (afterDeclaration?_eq_some hsome).1 (Nat.not_lt_zero _)
    obtain rfl : last = '\n' := hlast last (by simp)
    have hquoted : ∃ back, ∀ rest, afterDeclaration? (front ++ '\n' :: rest) =
        afterQuotedLine? (back ++ '\n' :: rest) := by
      rcases afterDeclaration?_append_newline front with hblank | hnone | hquoted
      · rw [hblank] at hsome
        cases hsome
      · rw [hnone] at hsome
        cases hsome
      · exact hquoted
    obtain ⟨back, hback⟩ := hquoted
    have hlater : afterQuotedLine? (back ++ ['\n']) = some later := (hback []).symm.trans hsome
    have hrest : afterDeclaration? (front ++ ['\n'] ++ rest) = some (later ++ rest) := by
      rw [List.append_assoc, List.singleton_append, hback, afterQuotedLine?_append_newline, hlater]
      rfl
    rw [stripLeading_of_some hsome] at h
    rw [stripLeading_of_some hrest]
    refine ih (fun c hc => ?_) h
    rcases (afterDeclaration?_eq_some hsome).2 with rfl | ⟨before, hbefore⟩
    · cases hc
    · refine hlast c ?_
      rw [← hbefore, List.getLast?_append, List.getLast?_cons, Option.mem_def.mp hc]
      rfl

/-- Behind lines, exactly these lines are stripped if nothing is left of them by themselves and what
follows begins with no declaration. -/
theorem stripLeading_append_eq_iff {rest : Text} (hlast : ∀ c ∈ text.getLast?, c = '\n')
    (hrest : rest ≠ []) : stripLeading (text ++ rest) = rest ↔
      stripLeading text = [] ∧ afterDeclaration? rest = none := by
  constructor
  · intro h
    have hnone := afterDeclaration?_stripLeading (text ++ rest)
    rw [h] at hnone
    refine ⟨?_, hnone⟩
    rcases exists_append_stripLeading (text ++ rest) with hsame | hnil | ⟨front, hfront, hstrip⟩
    · obtain rfl : text = [] := List.append_left_eq_self.mp (hsame.symm.trans h)
      rfl
    · exact absurd (h.symm.trans hnil) hrest
    · have hlines : text = front ++ ['\n'] := by
        rw [h, ← List.singleton_append, ← List.append_assoc] at hfront
        exact List.append_cancel_right hfront
      rw [hlines, hstrip]
      rfl
  · rintro ⟨hnil, hnone⟩
    rw [stripLeading_append_of_eq_nil hlast hnil, stripLeading_of_none hnone]

theorem isSteady_of_eq_nil (hopens : opensImport declaration = true)
    (hquoted : afterQuotedLine? (declaration ++ ['\n']) = some []) :
    IsSteady declaration ∧ EndsQuoted declaration := by
  refine ⟨⟨hopens, fun rest hrest => ?_⟩, ?_⟩
  · rw [hquoted] at hrest
    exact (Option.some.inj hrest).symm
  · obtain ⟨q, back, hback, hq, hline⟩ := exists_of_afterQuotedLine?_eq_nil hquoted
    have hfront : q :: back <:+ [] ++ declaration ++ ['\n'] := hback
    exact endsQuoted_of_suffix (by simp) hfront hq hline

/-- A declaration has no quotes in front of its module, a quote at the end of that, and nothing but a
semicolon and blanks behind it. The module is on one line, the rest is on any number of them. -/
def IsPlain (declaration : Text) : Prop :=
  ∃ clause specifier back opening closing,
    declaration = keyword ++ clause ++ opening :: specifier ++ closing :: back ∧
      Text.atWordEnd (clause ++ [opening]) = true ∧ (∀ c ∈ clause, ¬isQuote c) ∧
      '\n' ∉ specifier ∧ isQuote closing ∧ afterLineEnd? (back ++ ['\n']) = some []

theorem IsPlain.isSteady (h : IsPlain declaration) : IsSteady declaration ∧ EndsQuoted declaration := by
  obtain ⟨clause, specifier, back, opening, closing, rfl, hword, hclause, hspecifier, hclosing,
    hback⟩ := h
  have hvisible : closing ∉ [';', ' ', '\t', '\n', '\r'] := by
    intro hmem
    simp only [List.mem_cons, List.not_mem_nil, or_false] at hmem
    rcases hmem with rfl | rfl | rfl | rfl | rfl <;> exact absurd hclosing (by decide)
  have hfront : ∀ c ∈ keyword ++ clause, ¬isQuote c :=
    List.forall_mem_append.mpr ⟨not_isQuote_of_mem_keyword, hclause⟩
  refine isSteady_of_eq_nil (opensImport_eq_true_iff.mpr
    ⟨clause ++ opening :: specifier ++ closing :: back, ?trim, ?word⟩) ?quoted
  case trim =>
    have htrim (rest : Text) : Text.trimStart (keyword ++ rest) = keyword ++ rest := rfl
    simp only [List.append_assoc, htrim]
  case word => cases clause <;> exact hword
  case quoted =>
    -- The quotes inside the module end no line, since the last one stands behind them.
    have hinner := afterQuotedLine?_append_cons hspecifier hvisible (back ++ ['\n'])
    have hopening := afterLineEnd?_append_cons hspecifier hvisible (back ++ ['\n'])
    rw [List.append_assoc, List.append_assoc, afterQuotedLine?_append_of_forall_not hfront,
      List.cons_append, afterQuotedLine?_cons, List.cons_append, hopening, ite_self,
      Option.none_or, hinner, afterQuotedLine?_cons, if_pos hclosing, hback]
    rfl

/-- In front of a text that has a quote at the end of a line, and does not begin like a declaration, the
word `import` begins what is cut. -/
theorem afterDeclaration?_eq_none_iff {c : Char} {rest : Text} (hblank : ¬Text.isBlank c)
    (hc : c ∉ keyword) (hquoted : afterQuotedLine? (c :: rest) ≠ none) :
    afterDeclaration? (front ++ c :: rest) = none ↔ opensImport (front ++ c :: rest) = false := by
  refine ⟨fun hnone => ?_, afterDeclaration?_of_not_opens⟩
  by_contra hopens
  obtain ⟨back, htrim, hend⟩ := opensImport_eq_true_iff.mp (by simpa using hopens)
  rw [afterDeclaration?, Text.dropPrefix?_eq_some_iff.mpr htrim] at hnone
  have hnone : afterQuotedLine? back = none := (if_pos hend).symm.trans hnone
  have hsplit : front.dropWhile Text.isBlank ++ c :: rest = keyword ++ back := by
    rw [← htrim, Text.trimStart, List.dropWhile_append]
    cases front.dropWhile Text.isBlank <;> simp [List.dropWhile_cons_of_neg hblank]
  have hsuffix : c :: rest <:+ back := by
    rcases List.append_eq_append_iff.mp hsplit with ⟨inner, hword, hback⟩ | ⟨inner, -, hback⟩
    · cases inner with
      | nil => exact hback ▸ List.suffix_rfl
      | cons d inner =>
        obtain ⟨rfl, -⟩ := List.cons.inj hback
        exact absurd (hword ▸ by simp) hc
    · exact ⟨inner, hback.symm⟩
  exact hquoted (afterQuotedLine?_eq_none_of_suffix hnone hsuffix)

end Import

namespace Markup

open Import (stripLeading opensImport EndsQuoted IsSteady IsPlain)

variable {source : Text} {file : Path} {output : MarkupOutput}

/-- The import declarations at the front of the script of a component. -/
def hoisted (source : Text) : Text := Import.block ((declarations source).map (·.text))

def remainder (source : Text) : Text :=
  (otherStatements source).flatMap (· ++ ['\n']) ++ renderTemplate (template source).quote

theorem script_compile_eq (h : compile source file = .ok output) :
    output.script = hoisted source ++ remainder source := by
  rw [script_compile h, hoisted, remainder, Import.block, List.flatMap_append, List.append_assoc]

/-- The line of a quoted text ends in a quote, whatever stands in front of it and in the next line. -/
theorem afterQuotedLine?_quote (front markup back : Text) :
    Import.afterQuotedLine? (front ++ markup.quote ++ [';', '\n'] ++ back) ≠ none := by
  have hsuffix : '"' :: ';' :: '\n' :: back <:+ front ++ markup.quote ++ [';', '\n'] ++ back :=
    ⟨front ++ '"' :: markup.flatMap Text.escape, by simp [Text.quote]⟩
  have hline : Import.afterLineEnd? (';' :: '\n' :: back) = some back :=
    Import.afterLineEnd?_append_newline [';'] back
  have hquote : Import.isQuote '"' := by decide
  intro hnone
  have hhere := Import.afterQuotedLine?_eq_none_of_suffix hnone hsuffix
  rw [Import.afterQuotedLine?_cons, if_pos hquote, hline] at hhere
  cases hhere

theorem afterDeclaration?_remainder (source : Text) :
    Import.afterDeclaration? (remainder source) = none ↔ opensImport (remainder source) = false := by
  obtain ⟨word, hword⟩ : ∃ word, "const template = ".toList = 'c' :: word :=
    ⟨"onst template = ".toList, by decide⟩
  have hend : ";\n".toList = [';', '\n'] := by decide
  have hquoted := afterQuotedLine?_quote ('c' :: word) (template source) componentClass
  have hblank : ¬Text.isBlank 'c' := by decide
  have hkeyword : 'c' ∉ Import.keyword := by decide
  have hrender : renderTemplate (template source).quote =
      "const template = ".toList ++ (template source).quote ++ ";\n".toList ++ componentClass := rfl
  rw [hword, hend] at hrender
  rw [remainder, hrender]
  generalize componentClass = back at hquoted ⊢
  exact Import.afterDeclaration?_eq_none_iff hblank hkeyword hquoted

/-- From the script of a component exactly its import declarations are stripped if nothing is left of
them by themselves and what follows does not begin with the word `import`. Nothing is left of them only
if a quote ends the last one, as it does not if that has attributes. This is also enough if no other of
their lines can end in a quote, and it is so if all of them are plain. -/
theorem stripLeading_compile_eq_iff (h : compile source file = .ok output) :
    output.script = hoisted source ++ remainder source ∧
      (stripLeading output.script = remainder source ↔
        stripLeading (hoisted source) = [] ∧ opensImport (remainder source) = false) ∧
      (stripLeading (hoisted source) = [] →
        ∀ last ∈ (declarations source).getLast?, EndsQuoted last.text) ∧
      ((∀ declaration ∈ declarations source, IsSteady declaration.text) →
        (∀ last ∈ (declarations source).getLast?, EndsQuoted last.text) →
          stripLeading (hoisted source) = []) ∧
      ((∀ declaration ∈ declarations source, IsPlain declaration.text) →
        (stripLeading output.script = remainder source ↔ opensImport (remainder source) = false)) := by
  have hscript := script_compile_eq h
  have hlast : (∀ last ∈ (declarations source).getLast?, EndsQuoted last.text) ↔
      ∀ last ∈ ((declarations source).map (·.text)).getLast?, EndsQuoted last := by
    simp [List.getLast?_map]
  have hne : remainder source ≠ [] := List.append_ne_nil_of_right_ne_nil _ (List.cons_ne_nil _ _)
  have hlines : ∀ c ∈ (hoisted source).getLast?, c = '\n' := Import.getLast?_block _
  have hstrip : stripLeading output.script = remainder source ↔
      stripLeading (hoisted source) = [] ∧ opensImport (remainder source) = false := by
    rw [hscript, Import.stripLeading_append_eq_iff hlines hne, afterDeclaration?_remainder]
  have henough (hsteady : ∀ declaration ∈ declarations source, IsSteady declaration.text)
      (hquoted : ∀ last ∈ (declarations source).getLast?, EndsQuoted last.text) :
      stripLeading (hoisted source) = [] := by
    refine (Import.stripLeading_block_eq_nil_iff ?_).mpr (hlast.mp hquoted)
    rwa [List.forall_mem_map]
  refine ⟨hscript, hstrip, fun hnil => ?last, henough, fun hplain => ?plain⟩
  case last => exact hlast.mpr (Import.endsQuoted_of_stripLeading_block hnil)
  case plain =>
    have hnil := henough (fun declaration hmem => (hplain declaration hmem).isSteady.1)
      fun last hmem => (hplain last (List.mem_of_getLast? hmem)).isSteady.2
    rw [hstrip, and_iff_right hnil]

def scatteredImports : Text :=
  "<script>import \x7b\n  a\n\x7d from './a.js';\nlet b = a; import B from \"./B.svelte\"\n</script>".toList

theorem stripLeading_compile_eq_scattered :
    ∃ output, compile scatteredImports (.ofString "/App.svelte") = .ok output ∧
      (∀ declaration ∈ declarations scatteredImports, IsPlain declaration.text) ∧
      stripLeading output.script = remainder scatteredImports ∧
      otherStatements scatteredImports = ["let b = a;".toList] := by
  obtain ⟨hisOk, htexts, hothers, hopens⟩ :
      (compile scatteredImports (.ofString "/App.svelte")).isOk = true ∧
        (declarations scatteredImports).map (·.text) = ["import \x7b\n  a\n\x7d from './a.js';".toList,
          "import B from \"./B.svelte\"".toList] ∧
        otherStatements scatteredImports = ["let b = a;".toList] ∧
        opensImport (remainder scatteredImports) = false := by
    decide +kernel
  obtain ⟨output, hcompile⟩ := exists_output hisOk
  have hplain : ∀ text ∈ (declarations scatteredImports).map (·.text), IsPlain text := by
    rw [htexts, List.forall_mem_cons, List.forall_mem_singleton]
    constructor
    · refine ⟨" \x7b\n  a\n\x7d from ".toList, "./a.js".toList, [';'], '\'', '\'', rfl, rfl, ?_, ?_,
        rfl, rfl⟩ <;> simp [Import.isQuote]
    · refine ⟨" B from ".toList, "./B.svelte".toList, [], '"', '"', rfl, rfl, ?_, ?_, rfl, rfl⟩ <;>
        simp [Import.isQuote]
  have hplain := List.forall_mem_map.mp hplain
  have hstrip := (stripLeading_compile_eq_iff hcompile).2.2.2.2 hplain
  exact ⟨output, hcompile, hplain, hstrip.mpr hopens, hothers⟩

def LosesStatements (source : Text) : Prop :=
  ∃ output, compile source (.ofString "/App.svelte") = .ok output ∧
    stripLeading output.script = componentClass ∧ stripLeading output.script ≠ remainder source

theorem losesStatements_of (hisOk : (compile source (.ofString "/App.svelte")).isOk = true)
    (hstrip : stripLeading (hoisted source ++ remainder source) = componentClass)
    (hne : componentClass ≠ remainder source) : LosesStatements source := by
  obtain ⟨output, hcompile⟩ := exists_output hisOk
  rw [← script_compile_eq hcompile] at hstrip
  exact ⟨output, hcompile, hstrip, hstrip ▸ hne⟩

def attributedImport : Text :=
  "<script>\nimport data from './d.json' with \x7b type: \"json\" \x7d;\nlet a = data;\n</script>".toList

def dynamicImport : Text := "<script>\nimport('./x.js').then(f);\nlet a = 1;\n</script>".toList

theorem stripLeading_takes_statements :
    LosesStatements attributedImport ∧ LosesStatements dynamicImport := by
  constructor
  · exact losesStatements_of (by decide +kernel) (by decide +kernel) (by decide +kernel)
  · exact losesStatements_of (by decide +kernel) (by decide +kernel) (by decide +kernel)

end Markup

end ComponentBundle
