import ComponentBundle.Proofs.Import.Mount
import ComponentBundle.Proofs.Import.Strip

/-!
# Stripping and mounting

The imports at the front of a script are whole lines, and a component is mounted in place of a line
together with the line feed before it. So the two meet at most in one character: the line feed that
ends the last import can be the one that begins the export. Stripping first then takes from the export
what mounting looks for. Otherwise, and unless an export stands within an import, the order does not
matter.
-/
namespace ComponentBundle.Import

def BeginsExport (text : Text) : Prop :=
  ∃ d exported, text = exportLine ++ d :: exported ∧ d ≠ '\n'

theorem beginsExport_iff {text : Text} : BeginsExport text ↔
    ((Text.dropPrefix? exportLine text).bind List.head?).any (· ≠ '\n') = true := by
  constructor
  · rintro ⟨d, exported, htext, hd⟩
    rw [Text.dropPrefix?_eq_some_iff.mpr htext]
    simpa using hd
  · intro h
    rcases hdrop : Text.dropPrefix? exportLine text with _ | (_ | ⟨d, exported⟩)
    · simp [hdrop] at h
    · simp [hdrop] at h
    · exact ⟨d, exported, Text.dropPrefix?_eq_some_iff.mp hdrop, by simpa [hdrop] using h⟩

instance : DecidablePred BeginsExport := fun _ => decidable_of_iff _ beginsExport_iff.symm

private theorem exists_exportLine_eq_cons :
    ∃ word : Text, exportLine = '\n' :: 'e' :: word :=
  ⟨"xport default ".toList, by decide⟩

theorem replaceExport_cons_of_not {c : Char} {rest : Text} (h : ¬BeginsExport (c :: rest))
    (line : Text) : replaceExport line (c :: rest) = c :: replaceExport line rest := by
  rcases hdrop : Text.dropPrefix? exportLine (c :: rest) with _ | (_ | ⟨d, exported⟩)
  · simp only [replaceExport, hdrop]
  · simp only [replaceExport, hdrop]
  · by_cases hd : d = '\n'
    · simp only [replaceExport, hdrop, hd, if_true]
    · exact absurd ⟨d, exported, Text.dropPrefix?_eq_some_iff.mp hdrop, hd⟩ h

theorem replaceExport_exportLine {d : Char} (hd : d ≠ '\n') (line exported : Text) :
    replaceExport line (exportLine ++ d :: exported) = line ++ exported.dropWhile (· ≠ '\n') := by
  obtain ⟨word, hword⟩ := exists_exportLine_eq_cons
  have hdrop : Text.dropPrefix? exportLine ('\n' :: 'e' :: (word ++ d :: exported)) =
      some (d :: exported) :=
    Text.dropPrefix?_eq_some_iff.mpr (by rw [hword]; rfl)
  calc replaceExport line (exportLine ++ d :: exported)
    _ = replaceExport line ('\n' :: 'e' :: (word ++ d :: exported)) := by rw [hword]; rfl
    _ = line ++ exported.dropWhile (· ≠ '\n') := by simp only [replaceExport, hdrop, if_neg hd]

/-- What stands in front of all exports is left as it is. -/
theorem replaceExport_append {front rest : Text}
    (h : ∀ text, text <:+ front ++ rest → BeginsExport text → text <:+ rest) (line : Text) :
    replaceExport line (front ++ rest) = front ++ replaceExport line rest := by
  induction front with
  | nil => rfl
  | cons c front ih =>
    have hhere : ¬BeginsExport (c :: (front ++ rest)) := by
      intro hexport
      have hlength := (h _ List.suffix_rfl hexport).length_le
      simp only [List.length_cons, List.length_append] at hlength
      omega
    have hlater := ih fun text htext => h text (htext.trans (List.suffix_cons c _))
    rw [List.cons_append, replaceExport_cons_of_not hhere, hlater]
    rfl

private theorem exists_mountLine_parts (target : Text) : ∃ opening closing : Text,
    mountLine target =
        '\n' :: 'n' :: opening ++ (target.quote ++ ')' :: '\n' :: closing) ∧
      (∀ c ∈ opening, ¬isQuote c) ∧ ∀ c ∈ closing, ¬isQuote c := by
  obtain ⟨opening, hopening, hquotes⟩ : ∃ opening : Text,
      ("\nnew Component(\x7b\n\ttarget: document.querySelector(".toList : Text) =
        '\n' :: 'n' :: opening ∧ ∀ c ∈ opening, ¬isQuote c :=
    ⟨"ew Component(\x7b\n\ttarget: document.querySelector(".toList, by rfl, by simp [isQuote]⟩
  obtain ⟨closing, hclosing, hquotes'⟩ : ∃ closing : Text,
      (")\n\x7d);".toList : Text) = ')' :: '\n' :: closing ∧ ∀ c ∈ closing, ¬isQuote c :=
    ⟨"\x7d);".toList, by rfl, by simp [isQuote]⟩
  refine ⟨opening, closing, ?_, hquotes, hquotes'⟩
  simp [mountLine_eq hopening hclosing]

/-- What a component is mounted with begins with no declaration, and no quote ends one of its lines:
the selector is one line, and a bracket is behind it. -/
private theorem exists_mountLine_eq_cons (target : Text) : ∃ mounted : Text,
    mountLine target = '\n' :: 'n' :: mounted ∧
      ∀ rest, afterDeclaration? ('n' :: mounted ++ rest) = none ∧
        afterQuotedLine? ('n' :: mounted ++ rest) = afterQuotedLine? rest := by
  obtain ⟨opening, closing, hline, hopening, hclosing⟩ := exists_mountLine_parts target
  refine ⟨opening ++ (target.quote ++ ')' :: '\n' :: closing), by rw [hline]; rfl,
    fun rest => ⟨?declaration, ?quoted⟩⟩
  case declaration =>
    have hkeyword : keyword = 'i' :: "mport".toList := by decide
    have hblank : ¬Text.isBlank 'n' := by decide
    rw [afterDeclaration?, List.cons_append, Text.trimStart, List.dropWhile_cons_of_neg hblank,
      hkeyword, Text.dropPrefix?, if_neg (by decide)]
  case quoted =>
    have hfront : ∀ c ∈ 'n' :: opening, ¬isQuote c :=
      List.forall_mem_cons.mpr ⟨by decide, hopening⟩
    have hselector : afterQuotedLine? (target.quote ++ [')', '\n']) = none :=
      afterQuotedLine?_bracket (Markup.newline_notMem_quote target)
    calc afterQuotedLine? ('n' :: (opening ++ (target.quote ++ ')' :: '\n' :: closing)) ++ rest)
      _ = afterQuotedLine? ('n' :: opening ++
          (target.quote ++ [')'] ++ '\n' :: (closing ++ rest))) := by simp
      _ = afterQuotedLine? (closing ++ rest) := by
        rw [afterQuotedLine?_append_of_forall_not hfront, afterQuotedLine?_append_newline,
          List.append_assoc, List.singleton_append, hselector, Option.map_none, Option.none_or]
      _ = afterQuotedLine? rest := afterQuotedLine?_append_of_forall_not hclosing rest

/-- Mounting does not make a declaration at the front of a script that begins with none. -/
theorem afterDeclaration?_mount {script : Text} (h : afterDeclaration? script = none)
    (target : Text) : afterDeclaration? (mount target script) = none := by
  rcases replaceExport_eq (mountLine target) script with hsame | ⟨front, exported, hscript, hmount⟩
  · rw [mount, hsame, h]
  obtain ⟨word, hword⟩ := exists_exportLine_eq_cons
  obtain ⟨mounted, hline, hmounted⟩ := exists_mountLine_eq_cons target
  obtain ⟨hdeclaration, hquoted⟩ := hmounted (exported.dropWhile (· ≠ '\n'))
  have hbefore : script = front ++ '\n' :: ('e' :: word ++ exported) := by
    rw [hscript, hword]
    simp
  have hafter : mount target script =
      front ++ '\n' :: ('n' :: mounted ++ exported.dropWhile (· ≠ '\n')) := by
    rw [mount, hmount, hline]
    simp
  rw [hbefore] at h
  rw [hafter]
  rcases afterDeclaration?_append_newline front with hblank | hnone | ⟨back, hback⟩
  · rw [hblank, hdeclaration]
  · exact hnone _
  · -- a declaration that is not ended in the old script is not ended in the new one
    rw [hback, afterQuotedLine?_append_newline, Option.or_eq_none_iff] at h
    obtain ⟨hfront, hrest⟩ := h
    have hexported : afterQuotedLine? (exported.dropWhile (· ≠ '\n')) = none :=
      afterQuotedLine?_eq_none_of_suffix hrest
        ((List.dropWhile_suffix _).trans (List.suffix_append _ _))
    rw [hback, afterQuotedLine?_append_newline, Option.map_eq_none_iff.mp hfront, hquoted,
      hexported]
    rfl

/-- No default export stands within the imports that are stripped, unless it is the line feed at their
end that it begins with. -/
def ExportsBehindImports (script : Text) : Prop :=
  ∀ text, text <:+ script → BeginsExport text → text <:+ '\n' :: stripLeading script

/-- The line feed that ends the last stripped import begins a default export. -/
def SharesLineFeed (script : Text) : Prop :=
  stripLeading script ≠ script ∧ BeginsExport ('\n' :: stripLeading script)

/-- If no export begins in what is stripped, the order does not matter. -/
theorem stripLeading_mount {script : Text}
    (h : ∀ text, text <:+ script → BeginsExport text → text <:+ stripLeading script)
    (target : Text) :
    stripLeading (mount target script) = mount target (stripLeading script) := by
  have hstripped : stripLeading (mount target (stripLeading script)) =
      mount target (stripLeading script) :=
    stripLeading_of_none (afterDeclaration?_mount (afterDeclaration?_stripLeading script) target)
  rcases exists_append_stripLeading script with hsame | hnil | ⟨front, hscript, hfront⟩
  · rw [hsame] at hstripped ⊢
    exact hstripped
  · have hmount : mount target script = script ++ replaceExport (mountLine target) [] := by
      have hnone : ∀ text, text <:+ script ++ [] → BeginsExport text → text <:+ [] := by
        simpa [hnil] using h
      have happend := replaceExport_append hnone (mountLine target)
      rw [List.append_nil] at happend
      exact happend
    rw [hmount, hnil, replaceExport, List.append_nil, hnil]
    rfl
  · have hsplit : front ++ ['\n'] ++ stripLeading script = script := by simpa using hscript.symm
    have hmount : replaceExport (mountLine target) (front ++ ['\n'] ++ stripLeading script) =
        front ++ ['\n'] ++ mount target (stripLeading script) :=
      replaceExport_append (fun text htext => h text (hsplit ▸ htext)) (mountLine target)
    rw [hsplit, List.append_assoc, List.singleton_append] at hmount
    rw [mount, hmount, hfront, hstripped]

/-- If a stripped line feed begins the first export, stripping first leaves an export that is not
mounted. -/
theorem stripLeading_mount_ne {script : Text} (h : ExportsBehindImports script)
    (hshared : SharesLineFeed script) (target : Text) :
    stripLeading (mount target script) ≠ mount target (stripLeading script) := by
  obtain ⟨hne, d, exported, hexport, hd⟩ := hshared
  obtain ⟨word, hword⟩ := exists_exportLine_eq_cons
  obtain ⟨mounted, hline, hmounted⟩ := exists_mountLine_eq_cons target
  obtain ⟨front, hscript, hfront⟩ : ∃ front, script = front ++ '\n' :: stripLeading script ∧
      ∀ rest, stripLeading (front ++ '\n' :: rest) = stripLeading rest := by
    rcases exists_append_stripLeading script with hsame | hnil | hfront
    · exact absurd hsame hne
    · rw [hnil, hword] at hexport
      cases hexport
    · exact hfront
  have hmountFirst : stripLeading (mount target script) =
      'n' :: mounted ++ exported.dropWhile (· ≠ '\n') := by
    have hmount : replaceExport (mountLine target) (front ++ '\n' :: stripLeading script) =
        front ++ replaceExport (mountLine target) ('\n' :: stripLeading script) :=
      replaceExport_append (fun text htext => h text (hscript ▸ htext)) (mountLine target)
    rw [← hscript, hexport, replaceExport_exportLine hd] at hmount
    rw [mount, hmount, hline, List.cons_append, hfront]
    exact stripLeading_of_none (hmounted _).1
  have hstripFirst : ∃ rest, mount target (stripLeading script) = 'e' :: rest := by
    have hrest : stripLeading script = 'e' :: (word ++ d :: exported) := by
      rw [hword] at hexport
      exact (List.cons.inj hexport).2
    have hnot : ¬BeginsExport (stripLeading script) := by
      rintro ⟨c, text, htext, -⟩
      rw [hrest, hword] at htext
      exact absurd (List.cons.inj htext).1 (by decide)
    rw [hrest] at hnot ⊢
    exact ⟨_, replaceExport_cons_of_not hnot _⟩
  obtain ⟨rest, hrest⟩ := hstripFirst
  rw [hmountFirst, hrest]
  simp

/-- Unless an export stands within an import, it makes a difference whether a script is stripped or
mounted first just when the line feed of the last import begins the export. -/
theorem stripLeading_mount_eq_iff {script : Text} (h : ExportsBehindImports script)
    (target : Text) :
    stripLeading (mount target script) = mount target (stripLeading script) ↔
      ¬SharesLineFeed script := by
  constructor
  · exact fun heq hshared => stripLeading_mount_ne h hshared target heq
  · intro hshared
    refine stripLeading_mount (fun text htext hexport => ?_) target
    by_cases hsame : stripLeading script = script
    · rw [hsame]
      exact htext
    · rcases List.suffix_cons_iff.mp (h text htext hexport) with rfl | hsuffix
      · exact absurd ⟨hsame, hexport⟩ hshared
      · exact hsuffix

end ComponentBundle.Import
