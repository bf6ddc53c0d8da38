import ComponentBundle.Proofs.Import.Line

/-!
# Stripped imports

The imports at the front of a script are cut off one after the other, each where the first quote from
there on ends its line. What stands behind that line has no part in it. So what is stripped is a number
of whole lines, and they would be stripped in front of anything else as well.
-/
namespace ComponentBundle.Import

private theorem dropWhile_append_cons {p : Char → Bool} {c : Char} (hc : ¬p c) (front rest : Text) :
    (front ++ c :: rest).dropWhile p = front.dropWhile p ++ c :: rest := by
  rw [List.dropWhile_append]
  cases hfront : front.dropWhile p <;> simp [List.dropWhile_cons_of_neg hc]

private theorem skipSemicolon_append_cons {c : Char} (hc : c ≠ ';') (front rest : Text) :
    skipSemicolon (front ++ c :: rest) = skipSemicolon front ++ c :: rest := by
  cases front with
  | nil => simp [skipSemicolon, hc]
  | cons b front =>
    by_cases hb : b = ';'
    · simp [skipSemicolon, hb]
    · simp [skipSemicolon, hb]

private theorem skipSemicolon_suffix (text : Text) : skipSemicolon text <:+ text := by
  rw [skipSemicolon.eq_def]
  split
  · exact List.suffix_cons _ _
  · exact List.suffix_rfl

private theorem afterBreak?_append_newline (front rest : Text) :
    afterBreak? (front ++ '\n' :: rest) = (afterBreak? (front ++ ['\n'])).map (· ++ rest) := by
  cases front with
  | nil => rfl
  | cons c front =>
    by_cases hc : c = '\n'
    · simp [afterBreak?, hc]
    by_cases hreturn : c = '\r'
    · cases front with
      | nil => simp [afterBreak?, hreturn]
      | cons d front => by_cases hd : d = '\n' <;> simp [afterBreak?, hreturn, hd]
    · simp [afterBreak?, hc, hreturn]

private theorem afterBreak?_append_cons {front : Text} {c : Char} (hfront : '\n' ∉ front)
    (hnewline : c ≠ '\n') (hreturn : c ≠ '\r') (rest : Text) :
    afterBreak? (front ++ c :: rest) = none := by
  cases front with
  | nil => simp [afterBreak?, hnewline, hreturn]
  | cons b front =>
    have hb : b ≠ '\n' := fun h => hfront (by simp [h])
    cases front with
    | nil => simp [afterBreak?, hb, hnewline]
    | cons d front =>
      have hd : d ≠ '\n' := fun h => hfront (by simp [h])
      simp [afterBreak?, hb, hd]

/-- What stands behind a line feed has no part in where the line ends. -/
theorem afterLineEnd?_append_newline (front rest : Text) :
    afterLineEnd? (front ++ '\n' :: rest) =
      (afterLineEnd? (front ++ ['\n'])).map (· ++ rest) := by
  have hnewline : '\n' ≠ ';' := by decide
  rw [afterLineEnd?, afterLineEnd?, skipSemicolon_append_cons hnewline,
    skipSemicolon_append_cons hnewline, dropWhile_append_cons (by decide),
    dropWhile_append_cons (by decide), afterBreak?_append_newline]

/-- A line does not end in front of a character that it can not end in. -/
theorem afterLineEnd?_append_cons {front : Text} {c : Char} (hfront : '\n' ∉ front)
    (hc : c ∉ [';', ' ', '\t', '\n', '\r']) (rest : Text) :
    afterLineEnd? (front ++ c :: rest) = none := by
  simp only [List.mem_cons, List.not_mem_nil, or_false, not_or] at hc
  obtain ⟨hsemicolon, hspace, htab, hnewline, hreturn⟩ := hc
  rw [afterLineEnd?, skipSemicolon_append_cons hsemicolon,
    dropWhile_append_cons (by simp [hspace, htab])]
  refine afterBreak?_append_cons (fun hmem => hfront ?_) hnewline hreturn rest
  exact (skipSemicolon_suffix front).subset ((List.dropWhile_suffix _).subset hmem)

/-- The end of a line is the end of the text or a line feed. -/
theorem afterLineEnd?_eq_some {text rest : Text} (h : afterLineEnd? text = some rest) :
    rest = [] ∨ '\n' :: rest <:+ text := by
  have hsuffix : (skipSemicolon text).dropWhile (fun c => c == ' ' || c == '\t') <:+ text :=
    (List.dropWhile_suffix _).trans (skipSemicolon_suffix text)
  rw [afterLineEnd?] at h
  generalize (skipSemicolon text).dropWhile _ = back at h hsuffix
  rw [afterBreak?.eq_def] at h
  split at h
  · exact .inl (Option.some.inj h).symm
  · cases h
    exact .inr hsuffix
  · cases h
    exact .inr ((List.suffix_cons _ _).trans hsuffix)
  · cases h

theorem afterQuotedLine?_cons (c : Char) (rest : Text) :
    afterQuotedLine? (c :: rest) =
      (if isQuote c then afterLineEnd? rest else none).or (afterQuotedLine? rest) := by
  rw [afterQuotedLine?]
  by_cases hc : isQuote c
  · simp only [hc, if_true]
    cases afterLineEnd? rest <;> rfl
  · simp only [hc, Bool.false_eq_true, if_false, Option.none_or]

/-- The search for a quote that ends its line goes on behind a line in which there is none. -/
theorem afterQuotedLine?_append_newline (front rest : Text) :
    afterQuotedLine? (front ++ '\n' :: rest) =
      ((afterQuotedLine? (front ++ ['\n'])).map (· ++ rest)).or (afterQuotedLine? rest) := by
  induction front with
  | nil =>
    have hnewline : ¬isQuote '\n' := by decide
    simp [afterQuotedLine?_cons, hnewline, afterQuotedLine?]
  | cons c front ih =>
    rw [List.cons_append, List.cons_append, afterQuotedLine?_cons, afterQuotedLine?_cons, ih]
    by_cases hc : isQuote c
    · rw [if_pos hc, if_pos hc, afterLineEnd?_append_newline]
      cases afterLineEnd? (front ++ ['\n']) <;> simp
    · rw [if_neg hc, if_neg hc, Option.none_or, Option.none_or]

theorem afterQuotedLine?_append_of_forall_not {front : Text} (h : ∀ c ∈ front, ¬isQuote c)
    (rest : Text) : afterQuotedLine? (front ++ rest) = afterQuotedLine? rest := by
  induction front with
  | nil => rfl
  | cons c front ih =>
    obtain ⟨hc, hfront⟩ := List.forall_mem_cons.mp h
    rw [List.cons_append, afterQuotedLine?_cons, if_neg hc, Option.none_or, ih hfront]

theorem afterQuotedLine?_eq_none_of_suffix {text rest : Text} (h : afterQuotedLine? text = none)
    (hrest : rest <:+ text) : afterQuotedLine? rest = none := by
  obtain ⟨front, rfl⟩ := hrest
  induction front with
  | nil => exact h
  | cons c front ih =>
    rw [List.cons_append, afterQuotedLine?_cons, Option.or_eq_none_iff] at h
    exact ih h.2

/-- Within a line the search for a quote that ends it goes on to a character that it can not end in. -/
theorem afterQuotedLine?_append_cons {front : Text} {c : Char} (hfront : '\n' ∉ front)
    (hc : c ∉ [';', ' ', '\t', '\n', '\r']) (rest : Text) :
    afterQuotedLine? (front ++ c :: rest) = afterQuotedLine? (c :: rest) := by
  induction front with
  | nil => rfl
  | cons b front ih =>
    obtain ⟨-, hfront⟩ := List.ne_and_not_mem_of_not_mem_cons hfront
    rw [List.cons_append, afterQuotedLine?_cons, afterLineEnd?_append_cons hfront hc, ite_self,
      Option.none_or, ih hfront]

/-- No quote ends a line whose last character is a bracket. -/
theorem afterQuotedLine?_bracket {line : Text} (h : '\n' ∉ line) :
    afterQuotedLine? (line ++ [')', '\n']) = none := by
  rw [afterQuotedLine?_append_cons h (by decide)]
  decide

theorem afterQuotedLine?_eq_some {text rest : Text} (h : afterQuotedLine? text = some rest) :
    rest.length < text.length ∧ (rest = [] ∨ '\n' :: rest <:+ text) := by
  induction text with
  | nil => cases h
  | cons c text ih =>
    rw [afterQuotedLine?_cons, Option.or_eq_some_iff] at h
    rcases h with hhere | ⟨-, hlater⟩
    · have hend : afterLineEnd? text = some rest := by
        by_cases hc : isQuote c
        · rwa [if_pos hc] at hhere
        · rw [if_neg hc] at hhere
          cases hhere
      rcases afterLineEnd?_eq_some hend with hnil | hsuffix
      · simp [hnil]
      · have hlength := hsuffix.length_le
        rw [List.length_cons] at hlength ⊢
        exact ⟨by omega, .inr (hsuffix.trans (List.suffix_cons c text))⟩
    · obtain ⟨hlength, hsuffix⟩ := ih hlater
      rw [List.length_cons]
      exact ⟨by omega, hsuffix.imp_right (·.trans (List.suffix_cons c text))⟩

theorem dropPrefix?_append_newline {word : Text} (hword : '\n' ∉ word)
    (front rest : Text) : Text.dropPrefix? word (front ++ '\n' :: rest) =
      (Text.dropPrefix? word front).map (· ++ '\n' :: rest) := by
  induction word generalizing front with
  | nil => rfl
  | cons w word ih =>
    obtain ⟨hw, hword⟩ := List.ne_and_not_mem_of_not_mem_cons hword
    cases front with
    | nil => simp [Text.dropPrefix?, hw.symm]
    | cons c front =>
      by_cases hc : w = c
      · simp [Text.dropPrefix?, hc, ih hword]
      · simp [Text.dropPrefix?, hc]

private theorem atWordEnd_append_newline (front rest : Text) :
    Text.atWordEnd (front ++ '\n' :: rest) = Text.atWordEnd front := by
  cases front with
  | nil => rfl
  | cons c front => rfl

/-- What a text begins with is told by its first lines: they are blank, or they are no declaration, or
they are one that ends where the first quote from there on ends its line. -/
theorem afterDeclaration?_append_newline (front : Text) :
    (∀ rest, afterDeclaration? (front ++ '\n' :: rest) = afterDeclaration? rest) ∨
      (∀ rest, afterDeclaration? (front ++ '\n' :: rest) = none) ∨
      ∃ back, ∀ rest, afterDeclaration? (front ++ '\n' :: rest) =
        afterQuotedLine? (back ++ '\n' :: rest) := by
  cases hfront : front.trimStart with
  | nil =>
    have hnewline : Text.isBlank '\n' := by decide
    have htrim (rest : Text) : Text.trimStart (front ++ '\n' :: rest) = Text.trimStart rest := by
      rw [Text.trimStart] at hfront
      rw [Text.trimStart, List.dropWhile_append, hfront]
      exact List.dropWhile_cons_of_pos hnewline
    exact .inl fun rest => by rw [afterDeclaration?, afterDeclaration?, htrim]
  | cons c body =>
    have htrim (rest : Text) :
        Text.trimStart (front ++ '\n' :: rest) = c :: body ++ '\n' :: rest := by
      rw [Text.trimStart] at hfront
      rw [Text.trimStart, List.dropWhile_append, hfront]
      rfl
    have hkeyword : '\n' ∉ keyword := by decide
    cases hdrop : Text.dropPrefix? keyword (c :: body) with
    | none =>
      refine .inr (.inl fun rest => ?_)
      rw [afterDeclaration?, htrim, dropPrefix?_append_newline hkeyword, hdrop]
      rfl
    | some back =>
      have hdeclaration (rest : Text) : afterDeclaration? (front ++ '\n' :: rest) =
          if Text.atWordEnd back then afterQuotedLine? (back ++ '\n' :: rest) else none := by
        rw [afterDeclaration?, htrim, dropPrefix?_append_newline hkeyword, hdrop,
          ← atWordEnd_append_newline back rest]
        rfl
      by_cases hend : Text.atWordEnd back
      · exact .inr (.inr ⟨back, fun rest => by rw [hdeclaration, if_pos hend]⟩)
      · exact .inr (.inl fun rest => by rw [hdeclaration, if_neg hend])

/-- A declaration ends where a quote ends a line. -/
theorem exists_quoted_of_afterDeclaration? {text rest : Text}
    (h : afterDeclaration? text = some rest) :
    ∃ back, back <:+ text ∧ afterQuotedLine? back = some rest := by
  cases hdrop : Text.dropPrefix? keyword text.trimStart with
  | none => simp [afterDeclaration?, hdrop] at h
  | some back =>
    have htrim := Text.dropPrefix?_eq_some_iff.mp hdrop
    have hsuffix : text.trimStart <:+ text := List.dropWhile_suffix _
    rw [htrim] at hsuffix
    simp only [afterDeclaration?, hdrop, Option.ite_none_right_eq_some] at h
    exact ⟨back, (List.suffix_append keyword back).trans hsuffix, h.2⟩

theorem afterDeclaration?_eq_some {text rest : Text} (h : afterDeclaration? text = some rest) :
    rest.length < text.length ∧ (rest = [] ∨ '\n' :: rest <:+ text) := by
  obtain ⟨back, hback, hquoted⟩ := exists_quoted_of_afterDeclaration? h
  obtain ⟨hlength, hsuffix⟩ := afterQuotedLine?_eq_some hquoted
  exact ⟨Nat.lt_of_lt_of_le hlength hback.length_le, hsuffix.imp_right (·.trans hback)⟩

/-- A declaration with more behind it ends in a line feed, and would be the same with anything else
behind it. -/
theorem exists_of_afterDeclaration? {text rest : Text} (h : afterDeclaration? text = some rest) :
    rest = [] ∨ ∃ front, text = front ++ '\n' :: rest ∧
      ∀ other, afterDeclaration? (front ++ '\n' :: other) = some other := by
  refine (afterDeclaration?_eq_some h).2.imp_right ?_
  rintro ⟨front, rfl⟩
  refine ⟨front, rfl, ?_⟩
  rcases afterDeclaration?_append_newline front with hblank | hnone | ⟨back, hquoted⟩
  · rw [hblank] at h
    exact absurd (afterDeclaration?_eq_some h).1 (Nat.lt_irrefl _)
  · rw [hnone] at h
    cases h
  · rw [hquoted, afterQuotedLine?_append_newline, Option.or_eq_some_iff] at h
    rcases h with hfirst | ⟨-, hlater⟩
    · obtain ⟨tail, htail, happend⟩ := Option.map_eq_some_iff.mp hfirst
      have hnil : tail = [] := List.append_left_eq_self.mp happend
      intro other
      rw [hquoted, afterQuotedLine?_append_newline, htail, hnil]
      rfl
    · exact absurd (afterQuotedLine?_eq_some hlater).1 (Nat.lt_irrefl _)

private theorem stripUpTo_of_none {text : Text} (h : afterDeclaration? text = none) (n : Nat) :
    stripUpTo n text = text := by
  cases n with
  | zero => rfl
  | succ n => simp only [stripUpTo, h]

/-- A bound at least as great as the length takes all of them off. -/
private theorem stripUpTo_eq {n m : Nat} {text : Text} (hn : text.length ≤ n)
    (hm : text.length ≤ m) : stripUpTo n text = stripUpTo m text := by
  cases hdeclaration : afterDeclaration? text with
  | none => rw [stripUpTo_of_none hdeclaration, stripUpTo_of_none hdeclaration]
  | some rest =>
    have hlength := (afterDeclaration?_eq_some hdeclaration).1
    induction n generalizing m text rest with
    | zero => omega
    | succ n ih =>
      obtain ⟨m, rfl⟩ : ∃ k, m = k + 1 := ⟨m - 1, by omega⟩
      simp only [stripUpTo, hdeclaration]
      cases hnext : afterDeclaration? rest with
      | none => rw [stripUpTo_of_none hnext, stripUpTo_of_none hnext]
      | some later =>
        exact ih (by omega) (by omega) later hnext (afterDeclaration?_eq_some hnext).1

theorem stripLeading_of_none {text : Text} (h : afterDeclaration? text = none) :
    stripLeading text = text := stripUpTo_of_none h _

theorem stripLeading_of_some {text rest : Text} (h : afterDeclaration? text = some rest) :
    stripLeading text = stripLeading rest := by
  have hlength := (afterDeclaration?_eq_some h).1
  obtain ⟨n, hn⟩ : ∃ n, text.length = n + 1 := ⟨text.length - 1, by omega⟩
  rw [stripLeading, hn]
  simp only [stripUpTo, h]
  exact stripUpTo_eq (by omega) (Nat.le_refl _)

/-- What holds of texts that begin with no declaration, and of a text if it holds of what follows its
first declaration, holds of all texts. -/
theorem induction_on_declarations {motive : Text → Prop} (text : Text)
    (none : ∀ text, afterDeclaration? text = none → motive text)
    (some : ∀ text rest, afterDeclaration? text = some rest → motive rest → motive text) :
    motive text := by
  induction hn : text.length using Nat.strongRecOn generalizing text with
  | ind n ih =>
    cases h : afterDeclaration? text with
    | none => exact none text h
    | some rest => exact some text rest h (ih _ (hn ▸ (afterDeclaration?_eq_some h).1) rest rfl)

/-- No declaration is left at the front. -/
theorem afterDeclaration?_stripLeading (script : Text) :
    afterDeclaration? (stripLeading script) = none := by
  induction script using induction_on_declarations with
  | none script h => rw [stripLeading_of_none h, h]
  | some script rest h ih => rw [stripLeading_of_some h, ih]

/-- If something is stripped and something is left, a line feed ends what is stripped, and it would be
stripped as well with anything else behind it. -/
theorem exists_append_stripLeading (script : Text) :
    stripLeading script = script ∨ stripLeading script = [] ∨
      ∃ front, script = front ++ '\n' :: stripLeading script ∧
        ∀ rest, stripLeading (front ++ '\n' :: rest) = stripLeading rest := by
  induction script using induction_on_declarations with
  | none script h => exact .inl (stripLeading_of_none h)
  | some script rest h ih =>
    rw [stripLeading_of_some h]
    rcases exists_of_afterDeclaration? h with rfl | ⟨front, rfl, hfront⟩
    · exact .inr (.inl rfl)
    have hstrip (other : Text) : stripLeading (front ++ '\n' :: other) = stripLeading other :=
      stripLeading_of_some (hfront other)
    rcases ih with hsame | hnil | ⟨later, hrest, hlater⟩
    · exact .inr (.inr ⟨front, by rw [hsame], hstrip⟩)
    · exact .inr (.inl hnil)
    · refine .inr (.inr ⟨front ++ '\n' :: later, ?_, fun other => ?_⟩)
      · rw [List.append_assoc, List.cons_append, ← hrest]
      · rw [List.append_assoc, List.cons_append, hstrip, hlater]

end ComponentBundle.Import
