import ComponentBundle.Proofs.Import.Strip
import ComponentBundle.Proofs.Text.Regex

/-!
# Scanning line by line

An import is looked for at the start of a line, behind blanks, which may be line feeds, and up to a quote.
Still no line has a part in what another one names: the blanks that the search takes in front of an import
are whole lines, what follows the word `import` stays within its line, and behind a match no line starts
before the next line feed. So the search is the same as reading the lines one by one, and stripping, which
cuts at the end of a line, cuts what is named in two.
-/
namespace ComponentBundle.Import

open Text (Regex)
open Text.Regex (isInline Place)

variable {front rest line text gap after specifier : Text} {c opening closing : Char}
  {groups : List Text} {place : Place}

/-- One character of a line and as many more as there are, or as few as it takes. -/
def someInline (greedy : Bool) : List Regex := [.one isInline, .many greedy isInline]

def specifierParts : List Regex := [.group (.sequence (someInline true)), .one isQuote]

/-- Behind the word: at least one character, the first quote, and so on. -/
def gapParts : List Regex := someInline false ++ .one isQuote :: specifierParts

/-- The word, which blanks may stand in front of. -/
def keywordParts (parts : List Regex) : List Regex :=
  .many true Text.isBlank :: .literal keyword :: parts

/-- The expression of an import. The gap between the word and the specifier is as short as it can be, the
specifier as long as it can be. -/
def importStatement : Regex := .sequence (.lineStart :: keywordParts gapParts)

/-- The end of a line: a line feed with or without a carriage return, or the end of the text. -/
def lineBreak : Regex :=
  .orElse (.sequence [.optional (.one (· == '\r')), .one (· == '\n')]) .textEnd

def lineEndParts : List Regex :=
  [.optional (.one (· == ';')), .many true fun c => c == ' ' || c == '\t', lineBreak]

def quotedLineParts : List Regex := .many false (fun _ => true) :: .one isQuote :: lineEndParts

/-- The expression of the import declaration that a script begins with. -/
def leadingImport : Regex :=
  .sequence (.textStart :: keywordParts (.wordBoundary :: quotedLineParts))

private theorem not_isQuote_newline : ¬isQuote '\n' := by decide

private theorem isInline_of_isQuote (h : isQuote c) : isInline c = true := by
  have hc : c ≠ '\n' := by
    rintro rfl
    exact not_isQuote_newline h
  simp [isInline, hc]

private theorem forall_isInline (h : '\n' ∉ text) : ∀ c ∈ text, isInline c = true := fun c hc => by
  simpa [isInline] using ne_of_mem_of_not_mem hc h

private theorem newline_notMem_of_isInline (h : ∀ c ∈ text, isInline c = true) : '\n' ∉ text :=
  fun hmem => absurd (h _ hmem) (by decide)

/-- What stands within a line at the beginning of a text belongs to its first line. -/
private theorem exists_of_append_eq {taken behind : Text} (hrest : IsLineEnd rest)
    (htaken : '\n' ∉ taken) (h : line ++ rest = taken ++ behind) :
    ∃ later, line = taken ++ later ∧ behind = later ++ rest := by
  rcases List.append_eq_append_iff.mp h with ⟨more, rfl, hmore⟩ | ⟨later, hline, hbehind⟩
  · cases more with
    | nil => exact ⟨[], by simp, by simpa using hmore.symm⟩
    | cons d more =>
      rcases hrest with rfl | ⟨below, rfl⟩
      · cases hmore
      · obtain ⟨rfl, -⟩ := List.cons.inj hmore
        simp at htaken
  · exact ⟨later, hline, hbehind⟩

private theorem ways_someInline (greedy : Bool) (hc : isInline c = true) :
    (Regex.sequence (someInline greedy)).ways ⟨front, c :: rest, groups⟩ =
      Regex.stretches greedy isInline groups (front ++ [c]) rest := by
  simp [someInline, Regex.sequence_cons, Regex.sequence_nil, hc]

/-- The specifier goes up to the last quote of its line. -/
private theorem match?_specifierParts (hne : specifier ≠ []) (hspecifier : '\n' ∉ specifier)
    (hclosing : isQuote closing) (hafter : ∀ d ∈ after, ¬isQuote d) (hrest : IsLineEnd rest) :
    (Regex.sequence specifierParts).match? ⟨front, specifier ++ closing :: (after ++ rest), []⟩ =
      some ⟨front ++ specifier ++ [closing], after ++ rest, [specifier]⟩ := by
  obtain ⟨c, body, rfl⟩ := List.exists_cons_of_ne_nil hne
  obtain ⟨hc, hbody⟩ := List.forall_mem_cons.mp (forall_isInline hspecifier)
  rw [specifierParts, Regex.match?_sequence_cons, Regex.ways_group, List.cons_append,
    ways_someInline true hc, List.findSome?_map]
  refine Regex.findSome?_stretches_append_of_some hbody ?_
  have hfarther : (Regex.stretches true isInline [] (front ++ [c] ++ body ++ [closing])
      (after ++ rest)).findSome? ((Regex.sequence [.one isQuote]).match? ∘ fun later =>
        ⟨later.front, later.rest, later.groups ++ [later.front.drop front.length]⟩) = none := by
    refine List.findSome?_eq_none_iff.mpr fun place hplace => ?_
    obtain ⟨taken, behind, htext, htaken, rfl⟩ := Regex.mem_stretches_iff.mp hplace
    obtain ⟨later, rfl, rfl⟩ := exists_of_append_eq hrest (newline_notMem_of_isInline htaken) htext
    cases later with
    | cons d later => simp [Regex.match?_one_cons, hafter d]
    | nil =>
      rcases hrest with rfl | ⟨below, rfl⟩
      · simp [Regex.match?_one_nil]
      · simp [Regex.match?_one_cons, not_isQuote_newline]
  rw [Regex.findSome?_stretches_greedy (isInline_of_isQuote hclosing), hfarther, Option.none_or]
  simp [Regex.match?_one_cons, hclosing]

/-- If a quoted text stands in a line, then one stands between its first and its last quote. -/
private theorem betweenQuotes?_ne_none {behind : Text} (hopening : isQuote opening)
    (hclosing : isQuote closing) (hne : specifier ≠ []) :
    betweenQuotes? (gap ++ opening :: (specifier ++ closing :: behind)) ≠ none := by
  obtain ⟨gap', q, inside, hgap, hq, hgapQuotes⟩ := exists_firstQuote
    (⟨opening, by simp, hopening⟩ : ∃ d ∈ gap ++ [opening], isQuote d)
  obtain ⟨inside', q', after, hbehind, hq', hafterQuotes⟩ := exists_lastQuote
    (⟨closing, by simp, hclosing⟩ : ∃ d ∈ closing :: behind, isQuote d)
  have htext : gap ++ opening :: (specifier ++ closing :: behind) =
      gap' ++ q :: (inside ++ specifier ++ inside') ++ q' :: after := by
    rw [List.append_cons, hgap, hbehind]
    simp
  have hbetween := betweenQuotes?_eq_some_iff.mpr ⟨gap', after, q, q', htext,
    List.forall_mem_append.mpr ⟨hgapQuotes, hafterQuotes⟩, hq, hq', by simp [hne]⟩
  rw [hbetween]
  exact Option.some_ne_none _

private theorem exists_of_mem_ways_gapParts
    (h : place ∈ (Regex.sequence gapParts).ways ⟨front, text, groups⟩) :
    ∃ c gap opening specifier closing,
      text = c :: gap ++ opening :: (specifier ++ closing :: place.rest) ∧
        '\n' ∉ c :: gap ++ opening :: (specifier ++ [closing]) ∧ isQuote opening ∧
        isQuote closing ∧ specifier ≠ [] := by
  simp only [gapParts, someInline, specifierParts, List.cons_append, List.nil_append,
    Regex.mem_ways_sequence_cons, Regex.mem_ways_sequence_nil, Regex.mem_ways_one,
    Regex.mem_ways_many, Regex.mem_ways_group] at h
  obtain ⟨_, ⟨c, _, rfl, hc, rfl⟩, _, ⟨gap, _, rfl, hgap, rfl⟩, _, ⟨opening, _, rfl, hopening, rfl⟩,
    _, ⟨_, ⟨_, ⟨d, _, rfl, hd, rfl⟩, _, ⟨body, _, rfl, hbody, rfl⟩, rfl⟩, rfl⟩,
    _, ⟨closing, _, rfl, hclosing, rfl⟩, rfl⟩ := h
  refine ⟨c, gap, opening, d :: body, closing, by simp, ?_, hopening, hclosing, by simp⟩
  refine newline_notMem_of_isInline fun e he => ?_
  simp only [List.cons_append, List.mem_cons, List.mem_append, List.not_mem_nil, or_false] at he
  rcases he with rfl | he | rfl | rfl | he | rfl
  · exact hc
  · exact hgap e he
  · exact isInline_of_isQuote hopening
  · exact hd
  · exact hbody e he
  · exact isInline_of_isQuote hclosing

/-- Where the rest of a line has no text between quotes, nothing matches. -/
private theorem match?_gapParts_of_none (hrest : IsLineEnd rest) (h : betweenQuotes? line = none) :
    (Regex.sequence gapParts).match? ⟨front, c :: (line ++ rest), groups⟩ = none := by
  refine Option.eq_none_iff_forall_ne_some.mpr fun place hplace => ?_
  obtain ⟨d, gap, opening, specifier, closing, htext, hinline, hopening, hclosing, hne⟩ :=
    exists_of_mem_ways_gapParts (List.mem_of_head? hplace)
  obtain ⟨rfl, htext⟩ := List.cons.inj htext
  have htext : line ++ rest = (gap ++ opening :: (specifier ++ [closing])) ++ place.rest := by
    simpa using htext
  obtain ⟨later, hline, -⟩ := exists_of_append_eq hrest (List.not_mem_of_not_mem_cons hinline) htext
  have hline : line = gap ++ opening :: (specifier ++ closing :: later) := by simpa using hline
  rw [hline] at h
  exact betweenQuotes?_ne_none hopening hclosing hne h

/-- What matches behind the word is the text between the first and the last quote of the line. -/
private theorem exists_match?_gapParts (hline : '\n' ∉ c :: line) (hrest : IsLineEnd rest)
    (h : betweenQuotes? line = some specifier) :
    ∃ front' closing after, isQuote closing ∧ '\n' ∉ after ∧ after.length < line.length ∧
      (Regex.sequence gapParts).match? ⟨front, c :: (line ++ rest), []⟩ =
        some ⟨front' ++ [closing], after ++ rest, [specifier]⟩ := by
  obtain ⟨gap, after, opening, closing, rfl, hquotes, hopening, hclosing, hne⟩ :=
    betweenQuotes?_eq_some_iff.mp h
  obtain ⟨hc, hinline⟩ := List.forall_mem_cons.mp (forall_isInline hline)
  obtain ⟨hgap, hafter⟩ := List.forall_mem_append.mp hquotes
  have hinside : gap ++ opening :: specifier ++ closing :: after ++ rest =
      gap ++ opening :: (specifier ++ closing :: (after ++ rest)) := by simp
  simp only [List.mem_cons, List.mem_append, not_or] at hline
  obtain ⟨-, ⟨hgapLine, -, hspecifier⟩, -, hafterLine⟩ := hline
  refine ⟨front ++ [c] ++ gap ++ [opening] ++ specifier, closing, after, hclosing, hafterLine, ?_, ?_⟩
  · simp only [List.length_append, List.length_cons]
    omega
  rw [hinside, gapParts, someInline, List.cons_append, Regex.match?_one_cons, if_pos hc,
    List.cons_append, Regex.match?_sequence_cons, Regex.ways_many,
    Regex.findSome?_stretches_lazy_append (forall_isInline hgapLine) ?_,
    Regex.findSome?_stretches_lazy (isInline_of_isQuote hopening), List.nil_append,
    Regex.match?_one_cons, if_pos hopening,
    match?_specifierParts hne hspecifier hclosing hafter hrest, Option.some_or]
  intro front d rest hd
  rw [List.nil_append, Regex.match?_one_cons, if_neg (hgap d hd)]

private theorem exists_keyword_eq : ∃ word : Text, keyword = 'i' :: word ∧ Text.isBlank 'i' = false ∧
    '\n' ∉ keyword := ⟨"mport".toList, by decide, by decide, by decide⟩

/-- The word is looked for behind all blanks. -/
private theorem match?_keywordParts (parts : List Regex) (front text : Text) :
    (Regex.sequence (keywordParts parts)).match? ⟨front, text, []⟩ =
      (Text.dropPrefix? keyword text.trimStart).bind fun behind =>
        (Regex.sequence parts).match? ⟨front ++ text.takeWhile Text.isBlank ++ keyword, behind, []⟩ := by
  obtain ⟨word, hword, hi, -⟩ := exists_keyword_eq
  have hblank (front : Text) (c : Char) (rest : Text) (hc : Text.isBlank c = true) :
      (Regex.sequence (.literal keyword :: parts)).match? ⟨front, c :: rest, []⟩ = none := by
    have hne : 'i' ≠ c := by
      rintro rfl
      exact absurd hc (by simp [hi])
    rw [Regex.match?_literal, hword, Text.dropPrefix?, if_neg hne, Option.bind_none]
  rw [keywordParts, Regex.match?_many_of_none text hblank, Regex.match?_literal, Text.trimStart]

def StartsLine (front : Text) : Prop := front.getLast?.all (· == '\n') = true

theorem startsLine_newline (front : Text) : StartsLine (front ++ ['\n']) := by
  simp [StartsLine]

theorem not_startsLine_concat (hc : c ≠ '\n') (front : Text) : ¬StartsLine (front ++ [c]) := by
  simp [StartsLine, hc]

/-- An import is matched at the start of a line only. -/
theorem match?_of_not_startsLine (h : ¬StartsLine front) :
    importStatement.match? ⟨front, rest, []⟩ = none := by
  have hall : front.getLast?.all (· == '\n') = false := Bool.eq_false_iff.mpr h
  rw [importStatement, Regex.match?_sequence_cons, Regex.ways_lineStart, hall]
  rfl

private theorem match?_of_startsLine (h : StartsLine front) (text : Text) :
    importStatement.match? ⟨front, text, []⟩ =
      (Text.dropPrefix? keyword text.trimStart).bind fun behind => (Regex.sequence gapParts).match?
        ⟨front ++ text.takeWhile Text.isBlank ++ keyword, behind, []⟩ := by
  rw [StartsLine] at h
  rw [importStatement, Regex.match?_sequence_cons, Regex.ways_lineStart, if_pos h, ← match?_keywordParts]
  cases hmatch : (Regex.sequence (keywordParts gapParts)).match? ⟨front, text, []⟩ <;>
    simp [hmatch]

/-- Blank lines do not change what is matched behind them. -/
theorem match?_append_of_forall_isBlank (hfront : StartsLine front) (hnext : StartsLine (front ++ text))
    (hblank : ∀ c ∈ text, Text.isBlank c = true) (rest : Text) :
    importStatement.match? ⟨front, text ++ rest, []⟩ =
      importStatement.match? ⟨front ++ text, rest, []⟩ := by
  have htrim : (text ++ rest).trimStart = rest.trimStart := List.dropWhile_append_of_pos hblank
  have htake : (text ++ rest).takeWhile Text.isBlank = text ++ rest.takeWhile Text.isBlank :=
    List.takeWhile_append_of_pos hblank
  rw [match?_of_startsLine hfront, match?_of_startsLine hnext, htrim, htake,
    List.append_assoc front text]

/-- A match takes at least a character. -/
theorem length_lt_of_match? (h : importStatement.match? ⟨front, text, []⟩ = some place) :
    place.rest.length < text.length := by
  have hfront : StartsLine front := Classical.byContradiction fun hno => by
    rw [match?_of_not_startsLine hno] at h
    cases h
  rw [match?_of_startsLine hfront, Option.bind_eq_some_iff] at h
  obtain ⟨behind, hbehind, hmatch⟩ := h
  obtain ⟨c, gap, opening, specifier, closing, rfl, -⟩ :=
    exists_of_mem_ways_gapParts (List.mem_of_head? hmatch)
  have hsuffix : text.trimStart <:+ text := List.dropWhile_suffix _
  have hlength := hsuffix.length_le
  rw [Text.dropPrefix?_eq_some_iff.mp hbehind] at hlength
  simp only [List.length_append, List.length_cons] at hlength
  omega

private theorem trimStart_append (h : line.trimStart ≠ []) (rest : Text) :
    (line ++ rest).trimStart = line.trimStart ++ rest := by
  rw [Text.trimStart] at h ⊢
  rw [List.dropWhile_append, if_neg (by simpa using h), Text.trimStart]

private theorem dropPrefix?_append_of_isLineEnd (hrest : IsLineEnd rest) (text : Text) :
    Text.dropPrefix? keyword (text ++ rest) = (Text.dropPrefix? keyword text).map (· ++ rest) := by
  obtain ⟨-, -, -, hnewline⟩ := exists_keyword_eq
  rcases hrest with rfl | ⟨below, rfl⟩
  · simp
  · exact dropPrefix?_append_newline hnewline text below

/-- No import is matched at a line that names nothing, unless it is blank. -/
theorem match?_of_ofLine?_eq_none (hblank : line.trimStart ≠ []) (hrest : IsLineEnd rest)
    (h : ofLine? line = none) : importStatement.match? ⟨front, line ++ rest, []⟩ = none := by
  by_cases hno : ¬StartsLine front
  · exact match?_of_not_startsLine hno
  have hfront := Classical.not_not.mp hno
  rw [match?_of_startsLine hfront, trimStart_append hblank, dropPrefix?_append_of_isLineEnd hrest]
  rcases hdrop : Text.dropPrefix? keyword line.trimStart with _ | (_ | ⟨c, behind⟩)
  · rfl
  · -- nothing is behind the word in its line
    rcases hrest with rfl | ⟨below, rfl⟩
    · simp [gapParts, someInline, Regex.match?_one_nil]
    · simp [gapParts, someInline, Regex.match?_one_cons, isInline]
  · have hbetween : betweenQuotes? behind = none := by simpa [ofLine?, hdrop] using h
    exact match?_gapParts_of_none hrest hbetween

/-- At a line that names a specifier the match ends within the line, behind its last quote. -/
theorem exists_match?_of_ofLine? (hfront : StartsLine front) (hline : '\n' ∉ line)
    (hrest : IsLineEnd rest) (h : ofLine? line = some specifier) :
    ∃ front' closing after, isQuote closing ∧ '\n' ∉ after ∧ after.length < line.length ∧
      importStatement.match? ⟨front, line ++ rest, []⟩ =
        some ⟨front' ++ [closing], after ++ rest, [specifier]⟩ := by
  have hsuffix : line.trimStart <:+ line := List.dropWhile_suffix _
  rcases hdrop : Text.dropPrefix? keyword line.trimStart with _ | (_ | ⟨c, behind⟩)
  · simp [ofLine?, hdrop] at h
  · simp [ofLine?, hdrop] at h
  have hbetween : betweenQuotes? behind = some specifier := by simpa [ofLine?, hdrop] using h
  have htrim := Text.dropPrefix?_eq_some_iff.mp hdrop
  rw [htrim] at hsuffix
  have hinline : '\n' ∉ c :: behind := fun hmem =>
    hline (hsuffix.subset (List.mem_append_right _ hmem))
  obtain ⟨front', closing, after, hclosing, hafter, hlength, hmatch⟩ :=
    @exists_match?_gapParts (front ++ (line ++ rest).takeWhile Text.isBlank ++ keyword) _ _ _ _
      hinline hrest hbetween
  refine ⟨front', closing, after, hclosing, hafter, ?_, ?_⟩
  · have hle := hsuffix.length_le
    simp only [List.length_append, List.length_cons] at hle
    omega
  · have hne : line.trimStart ≠ [] := by simp [htrim, keyword]
    rw [match?_of_startsLine hfront, trimStart_append hne, dropPrefix?_append_of_isLineEnd hrest, hdrop]
    exact hmatch

private theorem specifiers_cons_newline (below : Text) :
    specifiers ('\n' :: below) = specifiers below := specifiers_append_newline [] below

/-- Behind the start of a line the search goes on to the start of the next one. -/
private theorem allCaptures_append (hfront : ¬StartsLine front) (hline : '\n' ∉ line)
    (hrest : IsLineEnd rest) (h : ∀ front below, rest = '\n' :: below → StartsLine front →
      importStatement.allCaptures front below = (specifiers below).map ([·])) :
    importStatement.allCaptures front (line ++ rest) = (specifiers rest).map ([·]) := by
  induction line generalizing front with
  | nil =>
    rw [List.nil_append]
    rcases hrest with rfl | ⟨below, rfl⟩
    · rw [Regex.allCaptures_nil]
      rfl
    · rw [Regex.allCaptures_of_none (match?_of_not_startsLine hfront), specifiers_cons_newline]
      exact h _ below rfl (startsLine_newline front)
  | cons c line ih =>
    obtain ⟨hc, hline⟩ := List.ne_and_not_mem_of_not_mem_cons hline
    rw [List.cons_append, Regex.allCaptures_of_none (match?_of_not_startsLine hfront)]
    exact ih (not_startsLine_concat hc.symm front) hline

/-- A blank line is passed over, whether or not an import is matched from it on. -/
private theorem allCaptures_of_blank (hfront : StartsLine front) (hline : '\n' ∉ line)
    (hblank : line.trimStart = []) (hrest : IsLineEnd rest)
    (h : ∀ front below, rest = '\n' :: below → StartsLine front →
      importStatement.allCaptures front below = (specifiers below).map ([·])) :
    importStatement.allCaptures front (line ++ rest) = (specifiers rest).map ([·]) := by
  have htake : line.takeWhile Text.isBlank ++ line.trimStart = line := List.takeWhile_append_dropWhile
  rw [hblank, List.append_nil] at htake
  have hall : ∀ c ∈ line, Text.isBlank c = true := htake ▸ List.all_eq_true.mp List.all_takeWhile
  cases hmatch : importStatement.match? ⟨front, line ++ rest, []⟩ with
  | none =>
    cases line with
    | cons c line =>
      obtain ⟨hc, hline⟩ := List.ne_and_not_mem_of_not_mem_cons hline
      rw [List.cons_append] at hmatch ⊢
      rw [Regex.allCaptures_of_none hmatch]
      exact allCaptures_append (not_startsLine_concat hc.symm front) hline hrest h
    | nil =>
      rcases hrest with rfl | ⟨below, rfl⟩
      · exact Regex.allCaptures_nil
      · rw [List.nil_append] at hmatch ⊢
        rw [Regex.allCaptures_of_none hmatch, specifiers_cons_newline]
        exact h _ below rfl (startsLine_newline front)
  | some place =>
    have hlength := length_lt_of_match? hmatch
    rcases hrest with rfl | ⟨below, rfl⟩
    · -- only blanks are left
      rw [match?_of_startsLine hfront, List.append_nil, hblank] at hmatch
      cases hmatch
    · have hnext : StartsLine (front ++ (line ++ ['\n'])) := by
        rw [← List.append_assoc]
        exact startsLine_newline _
      have hsame := match?_append_of_forall_isBlank hfront hnext
        (List.forall_mem_append.mpr ⟨hall, List.forall_mem_singleton.mpr (by decide)⟩) below
      rw [List.append_assoc, List.singleton_append, hmatch] at hsame
      rw [Regex.allCaptures_of_some hmatch hlength, specifiers_cons_newline, ← h _ below rfl hnext,
        Regex.allCaptures_of_some hsame.symm (length_lt_of_match? hsame.symm)]

private theorem exists_eq_append_isLineEnd (text : Text) :
    ∃ line rest, text = line ++ rest ∧ '\n' ∉ line ∧ IsLineEnd rest := by
  refine ⟨text.takeWhile (· ≠ '\n'), text.dropWhile (· ≠ '\n'),
    List.takeWhile_append_dropWhile.symm, fun hmem => ?_, ?_⟩
  · simpa using List.all_eq_true.mp List.all_takeWhile _ hmem
  · cases hdrop : text.dropWhile (· ≠ '\n') with
    | nil => exact .inl rfl
    | cons c rest =>
      have hhead := List.head?_dropWhile_not (· ≠ '\n') text
      rw [hdrop] at hhead
      obtain rfl : c = '\n' := by simpa using hhead
      exact .inr ⟨rest, rfl⟩

/-- From the start of a line on, the search finds what the lines name. -/
theorem allCaptures_importStatement (hfront : StartsLine front) (text : Text) :
    importStatement.allCaptures front text = (specifiers text).map ([·]) := by
  induction hn : text.length using Nat.strongRecOn generalizing front text with
  | ind n ih =>
    obtain ⟨line, rest, rfl, hline, hrest⟩ := exists_eq_append_isLineEnd text
    have hbelow (front below : Text) (hbelow : rest = '\n' :: below) (hfront : StartsLine front) :
        importStatement.allCaptures front below = (specifiers below).map ([·]) := by
      refine ih below.length ?_ hfront below rfl
      rw [← hn, hbelow, List.length_append, List.length_cons]
      omega
    rw [specifiers_append_of_isLineEnd hrest, specifiers_of_notMem hline, List.map_append]
    cases hof : ofLine? line with
    | some specifier =>
      obtain ⟨front', closing, after, hclosing, hafter, hlength, hmatch⟩ :=
        exists_match?_of_ofLine? hfront hline hrest hof
      have hquote : closing ≠ '\n' := by
        rintro rfl
        exact not_isQuote_newline hclosing
      rw [Regex.allCaptures_of_some hmatch (length_lt_of_match? hmatch),
        allCaptures_append (not_startsLine_concat hquote front') hafter hrest hbelow]
      rfl
    | none =>
      by_cases hblank : line.trimStart = []
      · rw [allCaptures_of_blank hfront hline hblank hrest hbelow]
        rfl
      · cases line with
        | nil => exact absurd rfl hblank
        | cons c line =>
          obtain ⟨hc, hline⟩ := List.ne_and_not_mem_of_not_mem_cons hline
          have hmatch := @match?_of_ofLine?_eq_none front _ _ hblank hrest hof
          rw [List.cons_append] at hmatch ⊢
          rw [Regex.allCaptures_of_none hmatch,
            allCaptures_append (not_startsLine_concat hc.symm front) hline hrest hbelow]
          rfl

private def restOf (parts : List Regex) (front text : Text) : Option Text :=
  ((Regex.sequence parts).match? ⟨front, text, []⟩).map Place.rest

private theorem restOf_lineBreak (front text : Text) :
    restOf [lineBreak] front text = afterBreak? text := by
  rw [restOf, Regex.match?_sequence_singleton, lineBreak, Regex.match?_orElse]
  cases text with
  | nil =>
    rw [Regex.match?_optional_one_nil, Regex.match?_one_nil]
    rfl
  | cons c rest =>
    have hend : Regex.textEnd.match? ⟨front, c :: rest, []⟩ = none := rfl
    rw [Regex.match?_optional_one_cons, Regex.match?_one_cons, hend, Option.or_none]
    by_cases hnewline : c = '\n'
    · simp [hnewline, afterBreak?]
    by_cases hreturn : c = '\r'
    · cases rest with
      | nil => simp [hreturn, afterBreak?, Regex.match?_one_nil]
      | cons d rest => by_cases hd : d = '\n' <;> simp [hreturn, hd, afterBreak?, Regex.match?_one_cons]
    · simp [hnewline, hreturn, afterBreak?]

/-- A line break does not begin with a character that may stand in front of it. -/
private theorem match?_lineBreak_of_ne (hc : c = ';' ∨ c = ' ' ∨ c = '\t') (front rest : Text) :
    (Regex.sequence [lineBreak]).match? ⟨front, c :: rest, []⟩ = none := by
  have hbreak := restOf_lineBreak front (c :: rest)
  have hnone : afterBreak? (c :: rest) = none := by
    rcases hc with rfl | rfl | rfl <;> rfl
  rw [hnone, restOf, Option.map_eq_none_iff] at hbreak
  exact hbreak

private theorem restOf_blanks (front text : Text) :
    restOf [.many true fun c => c == ' ' || c == '\t', lineBreak] front text =
      afterBreak? (text.dropWhile fun c => c == ' ' || c == '\t') := by
  have hblank (front : Text) (c : Char) (rest : Text) (hc : (c == ' ' || c == '\t') = true) :
      (Regex.sequence [lineBreak]).match? ⟨front, c :: rest, []⟩ = none :=
    match?_lineBreak_of_ne (.inr (by simpa using hc)) front rest
  rw [restOf, Regex.match?_many_of_none text hblank]
  exact restOf_lineBreak _ _

private theorem restOf_lineEndParts (front text : Text) :
    restOf lineEndParts front text = afterLineEnd? text := by
  rw [afterLineEnd?]
  cases text with
  | nil =>
    rw [restOf, lineEndParts, Regex.match?_optional_one_nil, ← restOf, restOf_blanks, skipSemicolon]
    rintro rest ⟨⟩
  | cons c rest =>
    have hhere := restOf_blanks front (c :: rest)
    have hlater := restOf_blanks (front ++ [c]) rest
    rw [restOf] at hhere hlater
    rw [restOf, lineEndParts, Regex.match?_optional_one_cons, Option.map_or, hhere]
    by_cases hc : c = ';'
    · subst hc
      rw [if_pos (by decide), hlater]
      have hnone : afterBreak? ((';' :: rest).dropWhile fun c => c == ' ' || c == '\t') = none := rfl
      rw [hnone, Option.or_none, skipSemicolon]
    · have hskip : skipSemicolon (c :: rest) = c :: rest := by
        rw [skipSemicolon]
        rintro _ ⟨⟩
        exact hc rfl
      rw [if_neg (by simpa using hc), hskip]
      rfl

private theorem restOf_quotedLineParts (front text : Text) :
    restOf quotedLineParts front text = afterQuotedLine? text := by
  induction text generalizing front with
  | nil => simp [restOf, quotedLineParts, Regex.match?_sequence_cons, afterQuotedLine?]
  | cons c rest ih =>
    have hlater := ih (front ++ [c])
    rw [restOf, quotedLineParts, Regex.match?_sequence_cons, Regex.ways_many] at hlater ⊢
    rw [Regex.findSome?_stretches_lazy rfl, Option.map_or, hlater, afterQuotedLine?_cons,
      Regex.match?_one_cons]
    by_cases hc : isQuote c
    · rw [if_pos hc, if_pos hc, ← restOf_lineEndParts (front ++ [c])]
      rfl
    · rw [if_neg hc, if_neg hc]
      rfl

/-- Declarations are stripped as the expression says. -/
theorem find?_leadingImport (text : Text) :
    (leadingImport.find? [] text).map Place.rest = afterDeclaration? text := by
  rw [leadingImport, Regex.find?_of_textStart, match?_keywordParts, Option.map_bind, afterDeclaration?]
  cases Text.dropPrefix? keyword text.trimStart with
  | none => rfl
  | some rest =>
    have hkeyword : keyword = "impor".toList ++ ['t'] := by decide
    have hword : (([] ++ text.takeWhile Text.isBlank ++ keyword).getLast?.any Text.isWord) = true := by
      rw [hkeyword, ← List.append_assoc, List.getLast?_concat]
      decide
    have hboundary : rest.head?.any Text.isWord = !Text.atWordEnd rest := by
      cases rest <;> simp [Text.atWordEnd]
    rw [Option.bind_some, Function.comp_apply, Regex.match?_sequence_cons, Regex.ways_wordBoundary,
      hword, hboundary]
    have hquoted := restOf_quotedLineParts ([] ++ text.takeWhile Text.isBlank ++ keyword) rest
    rw [restOf] at hquoted
    cases hend : Text.atWordEnd rest <;> simp [hend, ← hquoted]

/-- There are no more imports than lines. -/
theorem length_specifiers_le (text : Text) : (specifiers text).length ≤ text.count '\n' + 1 := by
  induction hn : text.length using Nat.strongRecOn generalizing text with
  | ind n ih =>
    obtain ⟨line, rest, rfl, hline, hrest⟩ := exists_eq_append_isLineEnd text
    have hone : (specifiers line).length ≤ 1 := by
      rw [specifiers_of_notMem hline]
      cases ofLine? line <;> simp
    rcases hrest with rfl | ⟨below, rfl⟩
    · rw [List.append_nil]
      omega
    · have hbelow := ih below.length (by simp [← hn]; omega) below rfl
      rw [specifiers_append_newline, List.length_append, List.count_append, List.count_cons_self]
      omega

/-- What is stripped is a number of lines, and all of the script that is left is behind them. -/
theorem exists_stripped (script : Text) : ∃ stripped, script = stripped ++ stripLeading script ∧
    (stripped = [] ∨ stripLeading script = [] ∨ ∃ lines, stripped = lines ++ ['\n']) := by
  rcases exists_append_stripLeading script with hsame | hnil | ⟨front, hscript, -⟩
  · exact ⟨[], hsame.symm, .inl rfl⟩
  · exact ⟨script, by rw [hnil, List.append_nil], .inr (.inl hnil)⟩
  · exact ⟨front ++ ['\n'], by simpa using hscript, .inr (.inr ⟨front, rfl⟩)⟩

/-- The search for imports reads a script line by line: it finds the same in a text of two parts as in the
parts, no more than one specifier in each line, and none that is empty or longer than a line. The
declarations that are stripped are those that the expression of a leading import matches; they are cut off
where a line or the text ends, so the imports of a script are those of what is stripped and those of the
rest. -/
theorem scan_is_line_by_line (script front rest : Text) :
    importStatement.allCaptures [] script = (specifiers script).map ([·]) ∧
      specifiers (front ++ '\n' :: rest) = specifiers front ++ specifiers rest ∧
      (specifiers script).length ≤ script.count '\n' + 1 ∧
      (∀ specifier ∈ specifiers script, specifier ≠ [] ∧ '\n' ∉ specifier) ∧
      (leadingImport.find? [] script).map Place.rest = afterDeclaration? script ∧
      ∃ stripped, script = stripped ++ stripLeading script ∧
        (stripped = [] ∨ stripLeading script = [] ∨ ∃ lines, stripped = lines ++ ['\n']) ∧
        specifiers script = specifiers stripped ++ specifiers (stripLeading script) := by
  refine ⟨@allCaptures_importStatement [] rfl script, specifiers_append_newline front rest,
    length_specifiers_le script, fun specifier hspecifier => ?inline, find?_leadingImport script,
    ?stripped⟩
  case inline => exact exists_mem_specifiers_iff.mp ⟨script, hspecifier⟩
  case stripped =>
    obtain ⟨stripped, hscript, hend⟩ := exists_stripped script
    refine ⟨stripped, hscript, hend, ?_⟩
    have hnil : specifiers [] = [] := rfl
    rcases hend with rfl | hrest | ⟨lines, rfl⟩
    · rw [List.nil_append] at hscript
      rw [← hscript, hnil, List.nil_append]
    · rw [hrest, List.append_nil] at hscript
      rw [hrest, hnil, List.append_nil, ← hscript]
    · have hlines : specifiers (lines ++ ['\n']) = specifiers lines := by
        rw [specifiers_append_newline, hnil, List.append_nil]
      rw [hlines, ← specifiers_append_newline, List.append_cons, ← hscript]

end ComponentBundle.Import
