import ComponentBundle.Proofs.Import.StripMount

/-!
# Mounting by lines

A default export is looked for in the lines behind the first one. The first line that reads like one gives
way to the mounted component, and all other lines stay.
-/
namespace ComponentBundle.Import

variable {line : Text} {lines : List Text}

def exportWords : Text := "export default ".toList

/-- A line that reads like a default export. -/
def IsExport (line : Text) : Prop := ∃ c exported, line = exportWords ++ c :: exported

/-- Lines behind another one. -/
def below (lines : List Text) : Text := lines.flatMap ('\n' :: ·)

theorem exportLine_eq : exportLine = '\n' :: exportWords := by decide

theorem isExport_iff :
    IsExport line ↔ ((Text.dropPrefix? exportWords line).any (· ≠ [])) = true := by
  rw [Option.any_eq_true]
  constructor
  · rintro ⟨c, exported, rfl⟩
    exact ⟨c :: exported, Text.dropPrefix?_eq_some_iff.mpr rfl, by simp⟩
  · rintro ⟨rest, hrest, hne⟩
    obtain ⟨c, exported, rfl⟩ := List.exists_cons_of_ne_nil (by simpa using hne)
    exact ⟨c, exported, Text.dropPrefix?_eq_some_iff.mp hrest⟩

instance : DecidablePred IsExport := fun _ => decidable_of_iff _ isExport_iff.symm

theorem below_append (lines lines' : List Text) : below (lines ++ lines') = below lines ++ below lines' :=
  List.flatMap_append

theorem isLineEnd_below (lines : List Text) : IsLineEnd (below lines) := by
  have hend := isLineEnd_flatMap (.inl rfl) lines
  rwa [List.append_nil] at hend

/-- A text is its first line with the others below it. -/
theorem exists_eq_append_below (text : Text) :
    ∃ first, text.lines = first :: text.lines.tail ∧ text = first ++ below text.lines.tail := by
  have hne : text.lines ≠ [] := Text.splitOnChar_ne_nil text
  obtain ⟨first, rest, hlines⟩ := List.exists_cons_of_ne_nil hne
  have htext : text.lines.flatMap ('\n' :: ·) = '\n' :: text := Text.flatMap_splitOnChar text
  rw [hlines, List.flatMap_cons, List.cons_append, List.cons_inj_right] at htext
  exact ⟨first, by rw [hlines]; rfl, by rw [hlines]; exact htext.symm⟩

/-- The text from a line feed on begins with an export exactly if the line behind it reads like one. -/
theorem beginsExport_cons_iff {rest : Text} (hline : '\n' ∉ line) (hrest : IsLineEnd rest) :
    BeginsExport ('\n' :: (line ++ rest)) ↔ IsExport line := by
  have hnewline : '\n' ∉ exportWords := by decide
  constructor
  · rintro ⟨d, exported, htext, hd⟩
    have htext : line ++ rest = (exportWords ++ [d]) ++ exported := by
      rw [exportLine_eq] at htext
      simpa using htext
    rcases List.append_eq_append_iff.mp htext with ⟨beyond, hwords, hbeyond⟩ | ⟨inner, hinner, -⟩
    · -- the words cannot go on behind the line, since a line feed would be among them
      rcases hrest with rfl | ⟨more, rfl⟩
      · obtain ⟨rfl, -⟩ := List.append_eq_nil_iff.mp hbeyond.symm
        exact ⟨d, [], by simpa using hwords.symm⟩
      · cases beyond with
        | nil => exact ⟨d, [], by simpa using hwords.symm⟩
        | cons c beyond =>
          obtain ⟨rfl, -⟩ := List.cons.inj hbeyond
          have hmem : '\n' ∈ exportWords ++ [d] := by simp [hwords]
          simp [hnewline, Ne.symm hd] at hmem
    · exact ⟨d, inner, by simpa using hinner⟩
  · rintro ⟨c, exported, rfl⟩
    refine ⟨c, exported ++ rest, by simp [exportLine_eq], ?_⟩
    rintro rfl
    simp at hline

theorem replaceExport_append_of_notMem {front : Text} (h : '\n' ∉ front) (mounted rest : Text) :
    replaceExport mounted (front ++ rest) = front ++ replaceExport mounted rest := by
  induction front with
  | nil => rfl
  | cons c front ih =>
    obtain ⟨hc, hfront⟩ := List.ne_and_not_mem_of_not_mem_cons h
    have hnot : ¬BeginsExport (c :: (front ++ rest)) := by
      rintro ⟨d, exported, htext, -⟩
      rw [exportLine_eq] at htext
      exact hc (List.cons.inj htext).1.symm
    rw [List.cons_append, replaceExport_cons_of_not hnot, ih hfront]
    rfl

theorem replaceExport_below_append {quiet : List Text}
    (hlines : ∀ line ∈ quiet, '\n' ∉ line ∧ ¬IsExport line) (mounted : Text) :
    replaceExport mounted (below (quiet ++ lines)) =
      below quiet ++ replaceExport mounted (below lines) := by
  induction quiet with
  | nil => rfl
  | cons line quiet ih =>
    obtain ⟨⟨hnewline, hquiet⟩, hlines⟩ := List.forall_mem_cons.mp hlines
    have hnot : ¬BeginsExport ('\n' :: (line ++ below (quiet ++ lines))) :=
      mt (beginsExport_cons_iff hnewline (isLineEnd_below _)).mp hquiet
    calc replaceExport mounted ('\n' :: (line ++ below (quiet ++ lines)))
      _ = '\n' :: (line ++ replaceExport mounted (below (quiet ++ lines))) := by
        rw [replaceExport_cons_of_not hnot, replaceExport_append_of_notMem hnewline]
      _ = below (line :: quiet) ++ replaceExport mounted (below lines) := by
        rw [ih hlines]
        simp [below]

/-- The first export gives way, and the lines below it stay. -/
theorem replaceExport_below_cons (hline : '\n' ∉ line) (h : IsExport line) (lines : List Text)
    (mounted : Text) : replaceExport mounted (below (line :: lines)) = mounted ++ below lines := by
  obtain ⟨c, exported, rfl⟩ := h
  obtain ⟨hc, hexported⟩ : c ≠ '\n' ∧ '\n' ∉ exported := by
    simp only [List.mem_append, List.mem_cons, not_or] at hline
    exact ⟨Ne.symm hline.2.1, hline.2.2⟩
  have hdrop : (exported ++ below lines).dropWhile (· ≠ '\n') = below lines := by
    rw [List.dropWhile_append_of_pos fun d hd => by
      simpa using fun heq : d = '\n' => hexported (heq ▸ hd)]
    rcases isLineEnd_below lines with hnil | ⟨more, hmore⟩
    · rw [hnil]
      rfl
    · rw [hmore]
      rfl
  have htext : below ((exportWords ++ c :: exported) :: lines) =
      exportLine ++ c :: (exported ++ below lines) := by
    simp [below, exportLine_eq]
  rw [htext, replaceExport_exportLine hc, hdrop]

end ComponentBundle.Import
