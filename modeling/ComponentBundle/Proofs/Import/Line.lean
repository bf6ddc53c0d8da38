import ComponentBundle.Import.Specifier
import ComponentBundle.Proofs.Text.Pieces

/-!
# What a line names

A line names at most one specifier, and it does so by its characters alone. This says where the
specifier stands in the line, without the way in which it is looked for. Lines are read one by one, so
what a script names is put together from what its parts name.
-/
namespace ComponentBundle

theorem Text.dropPrefix?_eq_some_iff {word text rest : Text} :
    Text.dropPrefix? word text = some rest ↔ text = word ++ rest := by
  induction word generalizing text with
  | nil => simp [Text.dropPrefix?, eq_comm]
  | cons w word ih =>
    cases text with
    | nil => simp [Text.dropPrefix?]
    | cons c text =>
      by_cases h : w = c
      · simp [Text.dropPrefix?, h, ih]
      · simp [Text.dropPrefix?, h, Ne.symm h]

private theorem dropWhile_eq_cons_iff {p : Char → Bool} {text rest : Text} {c : Char} :
    text.dropWhile p = c :: rest ↔
      ∃ front, text = front ++ c :: rest ∧ (∀ d ∈ front, p d) ∧ ¬p c := by
  constructor
  · intro h
    refine ⟨text.takeWhile p, ?_, List.all_eq_true.mp List.all_takeWhile, ?_⟩
    · rw [← h, List.takeWhile_append_dropWhile]
    · have hhead := List.head?_dropWhile_not p text
      simpa [h] using hhead
  · rintro ⟨front, rfl, hfront, hc⟩
    rw [List.dropWhile_append_of_pos hfront, List.dropWhile_cons_of_neg hc]

namespace Import

/-- Where a line has its specifier: behind blanks, the word `import` and at least one character more,
between the first quote from there on and the last quote. -/
def Names (line specifier : Text) : Prop :=
  ∃ blanks gap rest : Text, ∃ c opening closing : Char,
    line = blanks ++ keyword ++ c :: gap ++ opening :: specifier ++ closing :: rest ∧
      (∀ d ∈ blanks, Text.isBlank d) ∧ (∀ d ∈ gap ++ rest, ¬isQuote d) ∧
      isQuote opening ∧ isQuote closing ∧ specifier ≠ []

theorem exists_firstQuote {text : Text} (h : ∃ c ∈ text, isQuote c) :
    ∃ front opening rest, text = front ++ opening :: rest ∧ isQuote opening ∧
      ∀ d ∈ front, ¬isQuote d := by
  obtain ⟨opening, hfind⟩ := Option.isSome_iff_exists.mp (List.find?_isSome.mpr h)
  obtain ⟨hopening, front, rest, htext, hfront⟩ := List.find?_eq_some_iff_append.mp hfind
  exact ⟨front, opening, rest, htext, hopening, fun d hd => by simpa using hfront d hd⟩

theorem exists_lastQuote {text : Text} (h : ∃ c ∈ text, isQuote c) :
    ∃ front closing rest, text = front ++ closing :: rest ∧ isQuote closing ∧
      ∀ d ∈ rest, ¬isQuote d := by
  obtain ⟨rest, closing, front, hreverse, hclosing, hrest⟩ :=
    exists_firstQuote (by simpa using h : ∃ c ∈ text.reverse, isQuote c)
  refine ⟨front.reverse, closing, rest.reverse, ?_, hclosing, fun d hd => hrest d (by simpa using hd)⟩
  rw [← List.reverse_reverse text, hreverse]
  simp

theorem beforeLastQuote?_eq_some_iff {text front : Text} :
    beforeLastQuote? text = some front ↔
      ∃ closing rest, text = front ++ closing :: rest ∧ isQuote closing ∧
        ∀ d ∈ rest, ¬isQuote d := by
  have hsplit : beforeLastQuote? text = some front ↔
      ∃ closing, text.reverse.dropWhile (!isQuote ·) = closing :: front.reverse := by
    rw [beforeLastQuote?]
    cases text.reverse.dropWhile (!isQuote ·) with
    | nil => simp
    | cons closing reversed => simp [List.reverse_eq_iff]
  rw [hsplit]
  constructor
  · rintro ⟨closing, h⟩
    obtain ⟨reversed, htext, hreversed, hclosing⟩ := dropWhile_eq_cons_iff.mp h
    refine ⟨closing, reversed.reverse, ?_, by simpa using hclosing, by simpa using hreversed⟩
    have hreverse := congrArg List.reverse htext
    simpa using hreverse
  · rintro ⟨closing, rest, rfl, hclosing, hrest⟩
    refine ⟨closing, dropWhile_eq_cons_iff.mpr ⟨rest.reverse, by simp, by simpa using hrest, ?_⟩⟩
    simpa using hclosing

theorem beforeLastQuote?_eq_none_iff {text : Text} :
    beforeLastQuote? text = none ↔ ∀ c ∈ text, ¬isQuote c := by
  constructor
  · intro h c hc hquote
    obtain ⟨front, closing, rest, htext, hclosing, hrest⟩ := exists_lastQuote ⟨c, hc, hquote⟩
    rw [beforeLastQuote?_eq_some_iff.mpr ⟨closing, rest, htext, hclosing, hrest⟩] at h
    cases h
  · intro h
    refine Option.eq_none_iff_forall_ne_some.mpr fun front hfront => ?_
    obtain ⟨closing, rest, rfl, hclosing, -⟩ := beforeLastQuote?_eq_some_iff.mp hfront
    exact h closing (by simp) hclosing

theorem betweenQuotes?_eq_some_iff {text specifier : Text} :
    betweenQuotes? text = some specifier ↔
      ∃ gap rest : Text, ∃ opening closing : Char,
        text = gap ++ opening :: specifier ++ closing :: rest ∧ (∀ d ∈ gap ++ rest, ¬isQuote d) ∧
          isQuote opening ∧ isQuote closing ∧ specifier ≠ [] := by
  have hsplit : betweenQuotes? text = some specifier ↔
      ∃ opening after, text.dropWhile (!isQuote ·) = opening :: after ∧
        beforeLastQuote? after = some specifier ∧ specifier ≠ [] := by
    rw [betweenQuotes?]
    cases text.dropWhile (!isQuote ·) with
    | nil => simp
    | cons opening after =>
      rcases hfront : beforeLastQuote? after with _ | (_ | ⟨c, front⟩) <;>
        simp [hfront, and_assoc]
      rintro rfl
      simp
  rw [hsplit]
  constructor
  · rintro ⟨opening, after, hafter, hspecifier, hne⟩
    obtain ⟨gap, rfl, hgap, hopening⟩ := dropWhile_eq_cons_iff.mp hafter
    obtain ⟨closing, rest, rfl, hclosing, hrest⟩ := beforeLastQuote?_eq_some_iff.mp hspecifier
    refine ⟨gap, rest, opening, closing, by simp, ?_, by simpa using hopening, hclosing, hne⟩
    intro d hd
    rcases List.mem_append.mp hd with hd | hd
    · simpa using hgap d hd
    · exact hrest d hd
  · rintro ⟨gap, rest, opening, closing, rfl, hquotes, hopening, hclosing, hne⟩
    refine ⟨opening, specifier ++ closing :: rest, dropWhile_eq_cons_iff.mpr ⟨gap, by simp, ?_, ?_⟩,
      beforeLastQuote?_eq_some_iff.mpr ⟨closing, rest, rfl, hclosing, ?_⟩, hne⟩
    · intro d hd
      simpa using hquotes d (List.mem_append_left _ hd)
    · simpa using hopening
    · exact fun d hd => hquotes d (List.mem_append_right _ hd)

private theorem trimStart_keyword_append (rest : Text) :
    (keyword ++ rest).trimStart = keyword ++ rest := by
  have hkeyword : keyword = 'i' :: "mport".toList := by decide
  rw [hkeyword, Text.trimStart, List.cons_append, List.dropWhile_cons_of_neg (by decide)]

/-- Behind the word only what is between quotes counts. -/
theorem ofLine?_keyword_append (c : Char) (rest : Text) :
    ofLine? (keyword ++ c :: rest) = betweenQuotes? rest := by
  rw [ofLine?, trimStart_keyword_append, Text.dropPrefix?_eq_some_iff.mpr rfl]

/-- What is found in a line is what it names. -/
theorem ofLine?_eq_some_iff {line specifier : Text} :
    ofLine? line = some specifier ↔ Names line specifier := by
  have hsplit : ofLine? line = some specifier ↔
      ∃ c rest, line.trimStart = keyword ++ c :: rest ∧ betweenQuotes? rest = some specifier := by
    rw [ofLine?]
    cases hdrop : Text.dropPrefix? keyword line.trimStart with
    | none =>
      have hno : ∀ rest, line.trimStart ≠ keyword ++ rest := fun rest hrest =>
        Option.some_ne_none _ ((Text.dropPrefix?_eq_some_iff.mpr hrest).symm.trans hdrop)
      simp [hno]
    | some after =>
      rw [Text.dropPrefix?_eq_some_iff.mp hdrop]
      cases after <;> simp [and_assoc]
  rw [hsplit]
  constructor
  · rintro ⟨c, after, hline, hspecifier⟩
    obtain ⟨gap, rest, opening, closing, rfl, hquotes, hopening, hclosing, hne⟩ :=
      betweenQuotes?_eq_some_iff.mp hspecifier
    refine ⟨line.takeWhile Text.isBlank, gap, rest, c, opening, closing, ?_,
      List.all_eq_true.mp List.all_takeWhile, hquotes, hopening, hclosing, hne⟩
    calc line = line.takeWhile Text.isBlank ++ line.trimStart :=
        List.takeWhile_append_dropWhile.symm
      _ = _ := by simp [hline]
  · rintro ⟨blanks, gap, rest, c, opening, closing, rfl, hblanks, hquotes⟩
    refine ⟨c, gap ++ opening :: specifier ++ closing :: rest, ?_,
      betweenQuotes?_eq_some_iff.mpr ⟨gap, rest, opening, closing, rfl, hquotes⟩⟩
    rw [← trimStart_keyword_append, Text.trimStart, Text.trimStart, List.append_assoc,
      List.append_assoc, List.append_assoc, List.dropWhile_append_of_pos hblanks]
    simp

theorem ofLine?_eq_none_iff {line : Text} :
    ofLine? line = none ↔ ∀ specifier, ¬Names line specifier := by
  simp [Option.eq_none_iff_forall_ne_some, ofLine?_eq_some_iff]

/-- A line that begins otherwise than a declaration names nothing. -/
theorem ofLine?_cons_of_ne {c : Char} (hblank : ¬Text.isBlank c) (hc : c ≠ 'i') (rest : Text) :
    ofLine? (c :: rest) = none := by
  obtain ⟨word, hkeyword⟩ : ∃ word, keyword = 'i' :: word := ⟨"mport".toList, by decide⟩
  rw [ofLine?, Text.trimStart, List.dropWhile_cons_of_neg hblank, hkeyword, Text.dropPrefix?,
    if_neg hc.symm]

/-- A blank in front of a line does not count. -/
theorem ofLine?_cons_of_isBlank {c : Char} (h : Text.isBlank c) (rest : Text) :
    ofLine? (c :: rest) = ofLine? rest := by
  rw [ofLine?, ofLine?, Text.trimStart, Text.trimStart, List.dropWhile_cons_of_pos h]

/-- No line of the text names anything. -/
def IsSilent (text : Text) : Prop := ∀ line ∈ text.lines, ∀ specifier, ¬Names line specifier

/-- One line of the text names the specifier, and no other line names anything. -/
def NamesOnly (text specifier : Text) : Prop :=
  ∃ front line back, text.lines = front ++ line :: back ∧ Names line specifier ∧
    ∀ other ∈ front ++ back, ∀ specifier, ¬Names other specifier

theorem specifiers_eq_nil_iff {text : Text} : specifiers text = [] ↔ IsSilent text := by
  simp [specifiers, IsSilent, ofLine?_eq_none_iff]

theorem specifiers_eq_singleton_iff {text specifier : Text} :
    specifiers text = [specifier] ↔ NamesOnly text specifier := by
  simp only [specifiers, List.filterMap_eq_cons_iff, List.filterMap_eq_nil_iff,
    ofLine?_eq_none_iff, ofLine?_eq_some_iff, NamesOnly, List.forall_mem_append]
  constructor
  · rintro ⟨front, line, back, hlines, hfront, hline, hback⟩
    exact ⟨front, line, back, hlines, hline, hfront, hback⟩
  · rintro ⟨front, line, back, hlines, hline, hfront, hback⟩
    exact ⟨front, line, back, hlines, hfront, hline, hback⟩

/-- Where a line ends, what a script names is cut in two. -/
theorem specifiers_append_newline (front rest : Text) :
    specifiers (front ++ '\n' :: rest) = specifiers front ++ specifiers rest := by
  simp [specifiers, Text.lines, Text.splitOnChar_append_separator]

def IsLineEnd (rest : Text) : Prop := rest = [] ∨ ∃ more, rest = '\n' :: more

/-- Where a line ends, what a script names is cut in two. -/
theorem specifiers_append_of_isLineEnd {rest : Text} (h : IsLineEnd rest) (front : Text) :
    specifiers (front ++ rest) = specifiers front ++ specifiers rest := by
  rcases h with rfl | ⟨more, rfl⟩
  · have hnil : specifiers [] = [] := rfl
    rw [hnil, List.append_nil, List.append_nil]
  · have hbreak : specifiers ('\n' :: more) = specifiers more := specifiers_append_newline [] more
    rw [specifiers_append_newline, hbreak]

theorem specifiers_flatMap_line (texts : List Text) (rest : Text) :
    specifiers (texts.flatMap (· ++ ['\n']) ++ rest) =
      texts.flatMap specifiers ++ specifiers rest := by
  induction texts with
  | nil => rfl
  | cons text texts ih =>
    simp only [List.flatMap_cons, List.append_assoc, List.cons_append, List.nil_append,
      specifiers_append_newline, ih]

/-- A text that is one line names what the line names. -/
theorem specifiers_of_notMem {line : Text} (h : '\n' ∉ line) :
    specifiers line = (ofLine? line).toList := by
  rw [specifiers, Text.lines, Text.splitOnChar_of_notMem h, List.filterMap_cons]
  cases ofLine? line <;> rfl

/-- What scripts name are the texts that are not empty and fit in a line. -/
theorem exists_mem_specifiers_iff {specifier : Text} :
    (∃ script, specifier ∈ specifiers script) ↔ specifier ≠ [] ∧ '\n' ∉ specifier := by
  constructor
  · rintro ⟨script, h⟩
    obtain ⟨line, hline, hnames⟩ := List.mem_filterMap.mp h
    obtain ⟨blanks, gap, rest, c, opening, closing, rfl, -, -, -, -, hne⟩ :=
      ofLine?_eq_some_iff.mp hnames
    have hnewline := Text.notMem_of_mem_splitOnChar hline
    exact ⟨hne, fun hmem => hnewline (by simp [hmem])⟩
  · rintro ⟨hne, hnewline⟩
    have hnames : Names ("import '".toList ++ specifier ++ ['\'']) specifier :=
      ⟨[], [], [], ' ', '\'', '\'', by simp [keyword], by simp, by simp, rfl, rfl, hne⟩
    refine ⟨"import '".toList ++ specifier ++ ['\''], ?_⟩
    rw [specifiers_of_notMem (by simp [hnewline]), ofLine?_eq_some_iff.mpr hnames]
    exact List.mem_singleton_self _

theorem namesOnly_iff_names {line specifier : Text} (h : '\n' ∉ line) :
    NamesOnly line specifier ↔ Names line specifier := by
  rw [← specifiers_eq_singleton_iff, ← ofLine?_eq_some_iff, specifiers_of_notMem h]
  cases ofLine? line <;> simp

end Import

end ComponentBundle
