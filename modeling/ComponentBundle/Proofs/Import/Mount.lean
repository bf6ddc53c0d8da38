import ComponentBundle.Import.Mount
import ComponentBundle.Proofs.Import.Line
import ComponentBundle.Proofs.Markup.Emitted

/-!
# Mounting and imports

A component is mounted in place of the line that exports it. Neither that line nor the lines that come
instead of it name anything, whatever the selector is, so the same imports are found before and after.
-/
namespace ComponentBundle.Import

/-- A script without a default export stays as it is. In any other one the first of them gives way,
up to the end of its line. -/
theorem replaceExport_eq (line script : Text) : replaceExport line script = script ∨
    ∃ front exported, script = front ++ exportLine ++ exported ∧
      replaceExport line script = front ++ line ++ exported.dropWhile (· ≠ '\n') := by
  induction script with
  | nil => exact .inl rfl
  | cons c rest ih =>
    have hlater : replaceExport line (c :: rest) = c :: replaceExport line rest →
        replaceExport line (c :: rest) = c :: rest ∨
          ∃ front exported, c :: rest = front ++ exportLine ++ exported ∧
            replaceExport line (c :: rest) =
              front ++ line ++ exported.dropWhile (· ≠ '\n') := by
      intro h
      rcases ih with hsame | ⟨front, exported, hrest, hreplaced⟩
      · exact .inl (h.trans (congrArg _ hsame))
      · exact .inr ⟨c :: front, exported, congrArg _ hrest, h.trans (congrArg _ hreplaced)⟩
    rcases hdrop : Text.dropPrefix? exportLine (c :: rest) with _ | (_ | ⟨d, exported⟩)
    · exact hlater (by simp only [replaceExport, hdrop])
    · exact hlater (by simp only [replaceExport, hdrop])
    · by_cases hd : d = '\n'
      · exact hlater (by simp only [replaceExport, hdrop, hd, if_true])
      · refine .inr ⟨[], d :: exported, Text.dropPrefix?_eq_some_iff.mp hdrop, ?_⟩
        simp only [replaceExport, hdrop, if_neg hd, List.nil_append]
        rw [List.dropWhile_cons_of_pos (by simpa using hd)]

theorem isLineEnd_flatMap {rest : Text} (h : IsLineEnd rest) (lines : List Text) :
    IsLineEnd (lines.flatMap ('\n' :: ·) ++ rest) := by
  cases lines with
  | nil => exact h
  | cons line lines => exact .inr ⟨_, rfl⟩

/-- Lines that name nothing can be put in or left out. -/
theorem specifiers_append_silent {lines : List Text} {rest : Text}
    (hlines : ∀ line ∈ lines, '\n' ∉ line ∧ ofLine? line = none) (hrest : IsLineEnd rest)
    (front : Text) :
    specifiers (front ++ (lines.flatMap ('\n' :: ·) ++ rest)) = specifiers (front ++ rest) := by
  induction lines with
  | nil => rfl
  | cons line lines ih =>
    obtain ⟨⟨hline, hnone⟩, hlines⟩ := List.forall_mem_cons.mp hlines
    have hend := isLineEnd_flatMap hrest lines
    calc specifiers (front ++ ((line :: lines).flatMap ('\n' :: ·) ++ rest))
      _ = specifiers (front ++ '\n' :: (line ++ (lines.flatMap ('\n' :: ·) ++ rest))) := by simp
      _ = specifiers front ++ specifiers (lines.flatMap ('\n' :: ·) ++ rest) := by
        rw [specifiers_append_newline, specifiers_append_of_isLineEnd hend,
          specifiers_of_notMem hline, hnone]
        rfl
      _ = specifiers (front ++ rest) := by
        rw [← specifiers_append_of_isLineEnd hend, ih hlines]

/-- The default export is on a line of its own that names nothing, however it goes on. -/
private theorem exists_exportLine_eq : ∃ word : Text, exportLine = '\n' :: word ∧ '\n' ∉ word ∧
    ∀ exported, ofLine? (word ++ exported) = none := by
  obtain ⟨word, hword, hnewline⟩ : ∃ word : Text, exportLine = '\n' :: 'e' :: word ∧ '\n' ∉ word :=
    ⟨"xport default ".toList, by decide, by decide⟩
  exact ⟨'e' :: word, hword, by simp [hnewline],
    fun exported => ofLine?_cons_of_ne (by decide) (by decide) _⟩

theorem mountLine_eq {front back : Text}
    (hfront : "\nnew Component(\x7b\n\ttarget: document.querySelector(".toList = front)
    (hback : ")\n\x7d);".toList = back) (target : Text) :
    mountLine target = front ++ target.quote ++ back := by
  subst hfront hback
  rfl

/-- A component is mounted on lines that name nothing. -/
private theorem exists_mountLine_eq (target : Text) :
    ∃ lines : List Text, mountLine target = lines.flatMap ('\n' :: ·) ∧
      ∀ line ∈ lines, '\n' ∉ line ∧ ofLine? line = none := by
  obtain ⟨first, second, hopening, hfirst, hsecond⟩ : ∃ first second : Text,
      ("\nnew Component(\x7b\n\ttarget: document.querySelector(".toList : Text) =
        '\n' :: 'n' :: first ++ '\n' :: '\t' :: 't' :: second ∧ '\n' ∉ first ∧ '\n' ∉ second :=
    ⟨"ew Component(\x7b".toList, "arget: document.querySelector(".toList, by rfl, by decide,
      by decide⟩
  have hclosing : (")\n\x7d);".toList : Text) = ')' :: '\n' :: ['\x7d', ')', ';'] := by rfl
  refine ⟨['n' :: first, '\t' :: 't' :: second ++ target.quote ++ [')'], ['\x7d', ')', ';']],
    ?_, ?_⟩
  · simp [mountLine_eq hopening hclosing]
  · simp only [List.forall_mem_cons, List.not_mem_nil, false_implies, implies_true, and_true]
    refine ⟨⟨by simp [hfirst], ofLine?_cons_of_ne (by decide) (by decide) _⟩,
      ⟨by simp [hsecond, Markup.newline_notMem_quote], ?_⟩, by decide, by decide⟩
    rw [List.append_assoc, List.cons_append, List.cons_append, ofLine?_cons_of_isBlank (by decide)]
    exact ofLine?_cons_of_ne (by decide) (by decide) _

/-- Mounting adds no import and takes none away. -/
theorem specifiers_mount (target script : Text) :
    specifiers (mount target script) = specifiers script := by
  rcases replaceExport_eq (mountLine target) script with hsame | ⟨front, exported, hscript, hmount⟩
  · exact congrArg specifiers hsame
  obtain ⟨word, hword, hnewline, hsilent⟩ := exists_exportLine_eq
  obtain ⟨lines, hlines, hmounted⟩ := exists_mountLine_eq target
  have hrest : IsLineEnd (exported.dropWhile (· ≠ '\n')) := by
    cases hdrop : exported.dropWhile (· ≠ '\n') with
    | nil => exact .inl rfl
    | cons c more =>
      have hc := List.head?_dropWhile_not (· ≠ '\n') exported
      rw [hdrop] at hc
      exact .inr ⟨more, by simpa using hc⟩
  have hexport : ∀ line ∈ [word ++ exported.takeWhile (· ≠ '\n')],
      '\n' ∉ line ∧ ofLine? line = none := by
    refine List.forall_mem_singleton.mpr ⟨fun hmem => ?_, hsilent _⟩
    rcases List.mem_append.mp hmem with hmem | hmem
    · exact hnewline hmem
    · simpa using List.all_eq_true.mp List.all_takeWhile _ hmem
  have hjoin : front ++ ([word ++ exported.takeWhile (· ≠ '\n')].flatMap ('\n' :: ·) ++
      exported.dropWhile (· ≠ '\n')) = script := by
    rw [hscript, hword, List.flatMap_singleton, List.cons_append, List.append_assoc word,
      List.takeWhile_append_dropWhile]
    simp
  calc specifiers (mount target script)
    _ = specifiers (front ++ (lines.flatMap ('\n' :: ·) ++ exported.dropWhile (· ≠ '\n'))) := by
      rw [mount, hmount, hlines, List.append_assoc]
    _ = specifiers (front ++ exported.dropWhile (· ≠ '\n')) :=
      specifiers_append_silent hmounted hrest front
    _ = specifiers script := by
      rw [← specifiers_append_silent hexport hrest front, hjoin]

end ComponentBundle.Import
