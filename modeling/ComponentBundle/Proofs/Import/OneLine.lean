import ComponentBundle.Proofs.Import.Line
import ComponentBundle.Text.Identifier

/-!
# Imports on one line

A line is read for its quotes, not for its tokens. A declaration on a line of its own is read exactly
unless the comment behind it has a quote: the specifier goes up to the last quote of the line. A line that
begins with an identifier is passed over unless the identifier begins with the letters of `import` and the
line goes on with a quoted text: no end of the word is asked for.
-/
namespace ComponentBundle.Import

variable {c : Char}

/-- Whether the first word of a text ends where the text begins: neither a character of an identifier nor
an escape of one follows. -/
def EndsWord (rest : Text) : Prop := ∀ c ∈ rest.head?, ¬Text.isIdentifierPart c ∧ c ≠ '\\'

instance : DecidablePred EndsWord := fun rest =>
  decidable_of_iff (rest.head?.all fun c => !Text.isIdentifierPart c && c != '\\') (by
    cases rest <;> simp [EndsWord])

def BeginsWithKeyword (line : Text) : Prop := ∃ rest, line.trimStart = keyword ++ rest ∧ EndsWord rest

instance : DecidablePred BeginsWithKeyword := fun line =>
  decidable_of_iff ((Text.dropPrefix? keyword line.trimStart).any (EndsWord ·)) (by
    simp [Option.any_eq_true, BeginsWithKeyword, Text.dropPrefix?_eq_some_iff])

/-- A declaration on a line of its own: the word, what stands between it and the specifier (a blank, or
what is imported and the word `from`, with blanks around them), the specifier in quotes, and then, where
they are there, a semicolon, blanks and a comment. -/
structure LineDeclaration where
  indentation : Text
  binding : Text
  quote : Char
  specifier : Text
  semicolon : Bool
  blanks : Text
  comment : Option Text
  isBlank_indentation : ∀ c ∈ indentation, Text.isBlank c
  isBlank_blanks : ∀ c ∈ blanks, Text.isBlank c
  isQuote_quote : isQuote quote
  endsWord_binding : EndsWord binding
  binding_ne_nil : binding ≠ []
  specifier_ne_nil : specifier ≠ []
  not_isQuote_binding : ∀ c ∈ binding, ¬isQuote c
  not_isQuote_specifier : ∀ c ∈ specifier, ¬isQuote c

namespace LineDeclaration

/-- What stands between the specifier's quote and the comment's text. -/
def ending (declaration : LineDeclaration) : Text :=
  (if declaration.semicolon then [';'] else []) ++ declaration.blanks ++
    if declaration.comment.isSome then ['/', '/'] else []

/-- The line that the declaration is. -/
def text (declaration : LineDeclaration) : Text :=
  declaration.indentation ++ keyword ++ declaration.binding ++
    declaration.quote :: declaration.specifier ++
      declaration.quote :: (declaration.ending ++ declaration.comment.getD [])

def excess (declaration : LineDeclaration) : Text :=
  match declaration.comment.bind beforeLastQuote? with
  | none => []
  | some front => declaration.quote :: (declaration.ending ++ front)

end LineDeclaration

/-- A line of a script in which imports are written on one line. -/
inductive ScriptLine where
  | importing (declaration : LineDeclaration)
  | other (line : Text) (h : ¬BeginsWithKeyword line)

namespace ScriptLine

def text : ScriptLine → Text
  | importing declaration => declaration.text
  | other line _ => line

/-- The specifier of a declaration. -/
def specifier? : ScriptLine → Option Text
  | importing declaration => some declaration.specifier
  | other _ _ => none

/-- Whether quotes do not mislead: a declaration has none in its comment, and any other line names
nothing. -/
def IsPlain : ScriptLine → Prop
  | importing declaration => ∀ c ∈ declaration.comment.getD [], ¬isQuote c
  | other line _ => ∀ specifier, ¬Names line specifier

end ScriptLine

theorem not_isQuote_of_isBlank (h : Text.isBlank c) : ¬isQuote c := by
  intro hquote
  rcases (by simpa [isQuote] using hquote : c = '"' ∨ c = '\'') with rfl | rfl
  · exact absurd h (by decide)
  · exact absurd h (by decide)

namespace LineDeclaration

variable {declaration : LineDeclaration}

theorem not_isQuote_ending : ∀ c ∈ declaration.ending, ¬isQuote c := by
  intro c hc
  simp only [ending, List.mem_append] at hc
  rcases hc with (hc | hc) | hc
  · split at hc
    · obtain rfl := List.mem_singleton.mp hc
      decide
    · cases hc
  · exact not_isQuote_of_isBlank (declaration.isBlank_blanks c hc)
  · split at hc
    · simp only [List.mem_cons, List.not_mem_nil, or_false, or_self] at hc
      subst hc
      decide
    · cases hc

/-- The last quote of the line is the one that ends the specifier, or the last one of the comment. -/
theorem exists_closing : ∃ closing rest,
    declaration.quote :: (declaration.ending ++ declaration.comment.getD []) =
      declaration.excess ++ closing :: rest ∧ isQuote closing ∧ ∀ c ∈ rest, ¬isQuote c := by
  cases hlast : declaration.comment.bind beforeLastQuote? with
  | none =>
    have hexcess : declaration.excess = [] := by simp only [excess, hlast]
    have hcomment : ∀ c ∈ declaration.comment.getD [], ¬isQuote c := by
      cases hcomment : declaration.comment with
      | none => simp
      | some comment =>
        rw [hcomment, Option.bind_some] at hlast
        exact beforeLastQuote?_eq_none_iff.mp hlast
    rw [hexcess]
    exact ⟨_, _, rfl, declaration.isQuote_quote,
      List.forall_mem_append.mpr ⟨not_isQuote_ending, hcomment⟩⟩
  | some front =>
    have hexcess : declaration.excess = declaration.quote :: (declaration.ending ++ front) := by
      simp only [excess, hlast]
    obtain ⟨comment, hcomment, hfront⟩ := Option.bind_eq_some_iff.mp hlast
    obtain ⟨closing, rest, rfl, hclosing, hrest⟩ := beforeLastQuote?_eq_some_iff.mp hfront
    exact ⟨closing, rest, by simp [hexcess, hcomment], hclosing, hrest⟩

/-- The text of a declaration names the specifier and what goes on behind it up to the last quote. -/
theorem ofLine?_text :
    ofLine? declaration.text = some (declaration.specifier ++ declaration.excess) := by
  obtain ⟨c, gap, hbinding⟩ := List.exists_cons_of_ne_nil declaration.binding_ne_nil
  obtain ⟨closing, rest, hbehind, hclosing, hrest⟩ := @exists_closing declaration
  have hgap : ∀ d ∈ gap, ¬isQuote d := fun d hd =>
    declaration.not_isQuote_binding d (by simp [hbinding, hd])
  have htext : declaration.text = declaration.indentation ++ keyword ++ c :: gap ++
      declaration.quote :: (declaration.specifier ++ declaration.excess) ++ closing :: rest := by
    rw [text, hbehind, hbinding]
    simp
  exact ofLine?_eq_some_iff.mpr ⟨declaration.indentation, gap, rest, c, declaration.quote, closing,
    htext, declaration.isBlank_indentation, List.forall_mem_append.mpr ⟨hgap, hrest⟩,
    declaration.isQuote_quote, hclosing, by simp [declaration.specifier_ne_nil]⟩

theorem excess_eq_nil_iff :
    declaration.excess = [] ↔ ∀ c ∈ declaration.comment.getD [], ¬isQuote c := by
  cases hcomment : declaration.comment with
  | none => simp [excess, hcomment]
  | some comment =>
    rw [Option.getD_some, ← beforeLastQuote?_eq_none_iff, excess, hcomment, Option.bind_some]
    cases beforeLastQuote? comment <;> simp

end LineDeclaration

variable {script : Text} {lines : List ScriptLine}

/-- Every declaration is read as something. -/
private theorem length_le_length_read (lines : List ScriptLine) :
    (lines.filterMap ScriptLine.specifier?).length ≤
      (lines.filterMap fun line => ofLine? line.text).length := by
  induction lines with
  | nil => exact Nat.le_refl _
  | cons line lines ih =>
    cases line with
    | importing declaration =>
      simpa [List.filterMap_cons, ScriptLine.text, ScriptLine.specifier?,
        LineDeclaration.ofLine?_text] using ih
    | other line h =>
      cases hread : ofLine? (ScriptLine.other line h).text with
      | none => simpa [List.filterMap_cons, ScriptLine.specifier?, hread] using ih
      | some found =>
        simp only [List.filterMap_cons, ScriptLine.specifier?, hread, List.length_cons]
        omega

private theorem read_eq_iff (lines : List ScriptLine) :
    (lines.filterMap fun line => ofLine? line.text) = lines.filterMap ScriptLine.specifier? ↔
      ∀ line ∈ lines, line.IsPlain := by
  induction lines with
  | nil => simp
  | cons line lines ih =>
    rw [List.forall_mem_cons, ← ih]
    cases line with
    | importing declaration =>
      simp only [List.filterMap_cons, ScriptLine.text, LineDeclaration.ofLine?_text,
        ScriptLine.specifier?, List.cons.injEq, List.append_right_eq_self,
        LineDeclaration.excess_eq_nil_iff, ScriptLine.IsPlain]
    | other line h =>
      have hplain : (ScriptLine.other line h).IsPlain ↔
          ofLine? (ScriptLine.other line h).text = none := ofLine?_eq_none_iff.symm
      rw [hplain]
      cases hread : ofLine? (ScriptLine.other line h).text with
      | none => simp [List.filterMap_cons, hread, ScriptLine.specifier?]
      | some found =>
        -- The lines below can not make up for it: none of their declarations is passed over.
        have hlength := length_le_length_read lines
        simp only [List.filterMap_cons, hread, ScriptLine.specifier?, reduceCtorEq, false_and,
          iff_false]
        intro heq
        have hcount := congrArg List.length heq
        rw [List.length_cons] at hcount
        omega

/-- A script whose imports are each written on one line is read exactly just when no comment behind one
of them has a quote and no line that begins otherwise names anything. -/
theorem one_line_imports_read_iff (h : script.lines = lines.map ScriptLine.text) :
    specifiers script = lines.filterMap ScriptLine.specifier? ↔ ∀ line ∈ lines, line.IsPlain := by
  rw [specifiers, h, List.filterMap_map]
  exact read_eq_iff lines

private theorem not_isQuote_of_all {text : Text} (h : text.all (!isQuote ·) = true) :
    ∀ c ∈ text, ¬isQuote c := by
  simpa using h

def commentedImport (comment : Text) : LineDeclaration where
  indentation := ['\t']
  binding := " a from ".toList
  quote := '\''
  specifier := "./a.js".toList
  semicolon := true
  blanks := [' ']
  comment := some comment
  isBlank_indentation := List.all_eq_true.mp (by decide)
  isBlank_blanks := List.all_eq_true.mp (by decide)
  isQuote_quote := by decide
  endsWord_binding := by decide
  binding_ne_nil := by decide
  specifier_ne_nil := by decide
  not_isQuote_binding := not_isQuote_of_all (by decide)
  not_isQuote_specifier := not_isQuote_of_all (by decide)

def bareImport : LineDeclaration where
  indentation := []
  binding := [' ']
  quote := '"'
  specifier := "./b.css".toList
  semicolon := false
  blanks := []
  comment := none
  isBlank_indentation := List.all_eq_true.mp (by decide)
  isBlank_blanks := List.all_eq_true.mp (by decide)
  isQuote_quote := by decide
  endsWord_binding := by decide
  binding_ne_nil := by decide
  specifier_ne_nil := by decide
  not_isQuote_binding := not_isQuote_of_all (by decide)
  not_isQuote_specifier := not_isQuote_of_all (by decide)

theorem one_line_imports_read_iff_plainLines :
    specifiers "\timport a from './a.js'; // as ever\nimportAll(b);\nimport \"./b.css\"".toList =
      ["./a.js".toList, "./b.css".toList] := by
  have hcall : ¬BeginsWithKeyword "importAll(b);".toList := by decide
  have hlines : Text.lines
      "\timport a from './a.js'; // as ever\nimportAll(b);\nimport \"./b.css\"".toList =
        [ScriptLine.importing (commentedImport " as ever".toList), .other "importAll(b);".toList hcall,
          .importing bareImport].map ScriptLine.text := by rfl
  refine (one_line_imports_read_iff hlines).mpr fun line hline => ?_
  simp only [List.mem_cons, List.not_mem_nil, or_false] at hline
  rcases hline with rfl | rfl | rfl
  · exact not_isQuote_of_all (by decide)
  · exact ofLine?_eq_none_iff.mp (by decide)
  · exact not_isQuote_of_all (by decide)

/-- An apostrophe in a comment and a call with two quoted texts are read as parts of an import. -/
theorem quotes_mislead_scan :
    (∃ lines : List ScriptLine, Text.lines "\timport a from './a.js'; // don't".toList =
        lines.map ScriptLine.text ∧ lines.filterMap ScriptLine.specifier? = ["./a.js".toList] ∧
        specifiers "\timport a from './a.js'; // don't".toList = ["./a.js'; // don".toList]) ∧
      ∃ lines : List ScriptLine, Text.lines "importAll('./a.js', './b.js');".toList =
        lines.map ScriptLine.text ∧ lines.filterMap ScriptLine.specifier? = [] ∧
        specifiers "importAll('./a.js', './b.js');".toList = ["./a.js', './b.js".toList] := by
  have hcall : ¬BeginsWithKeyword "importAll('./a.js', './b.js');".toList := by decide
  exact ⟨⟨[.importing (commentedImport " don't".toList)], by rfl, rfl, by decide⟩,
    ⟨[.other _ hcall], by rfl, rfl, by decide⟩⟩

end ComponentBundle.Import
