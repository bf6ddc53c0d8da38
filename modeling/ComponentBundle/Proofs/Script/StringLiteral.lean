import ComponentBundle.Script.Lexer

/-!
# Quoted texts as strings of a script

A quoted text is read by a script as one string, which ends where the quotes end, and which denotes the
text and no other one. So nothing in a text can end its string early or stand for something else.
-/
namespace ComponentBundle.Script

open Text (escape hexDigit keptUnit)
open Lexer (stringEscape stringUpTo)

def keptChar (c : Char) : Text := if c = '\uFFFD' then keptUnit 0xFFFD else [c]

/-- A text as a token has it that denotes it. -/
def kept (text : Text) : Text := text.flatMap keptChar

/-- The text begins with a string that denotes `value`, wherever it stands, and `rest` follows it. -/
def Denotes (text value rest : Text) : Prop :=
  ∀ newline pos, (Lexer.token newline pos text).token.kind = .string ∧
    (Lexer.token newline pos text).token.text = String.ofList (kept value) ∧
    (Lexer.token newline pos text).rest = rest ∧ (Lexer.token newline pos text).failures = []

theorem keptChar_of_ne {c : Char} (h : c ≠ '\uFFFD') : keptChar c = [c] := if_neg h

theorem exists_keptChar_eq (c : Char) : ∃ more, keptChar c = c :: more := by
  by_cases h : c = '\uFFFD'
  · exact ⟨['f', 'f', 'f', 'd'], h ▸ by decide⟩
  · exact ⟨[], keptChar_of_ne h⟩

theorem kept_injective : Function.Injective kept := by
  intro text text' h
  induction text generalizing text' with
  | nil =>
    cases text' with
    | nil => rfl
    | cons d rest' =>
      obtain ⟨more, hd⟩ := exists_keptChar_eq d
      simp [kept, hd] at h
  | cons c rest ih =>
    obtain ⟨more, hc⟩ := exists_keptChar_eq c
    cases text' with
    | nil => simp [kept, hc] at h
    | cons d rest' =>
      obtain ⟨more', hd⟩ := exists_keptChar_eq d
      have hhead : c = d := by
        simp only [kept, List.flatMap_cons, hc, hd, List.cons_append] at h
        exact (List.cons.inj h).1
      subst hhead
      exact congrArg _ (ih (List.append_cancel_left h))

private theorem hexValue?_hexDigit : ∀ n < 16, Json.Reader.hexValue? (hexDigit n) = some n := by
  decide

private theorem stringEscape_control {c : Char} (hc : c.toNat < 32) (pos : Nat) (rest : Text) :
    stringEscape pos ('u' :: '0' :: '0' :: hexDigit (c.toNat / 16) :: hexDigit (c.toNat % 16) :: rest) =
      ([c], rest, []) := by
  have hhigh := hexValue?_hexDigit (c.toNat / 16) (by omega)
  have hlow := hexValue?_hexDigit (c.toNat % 16) (by omega)
  have hzero : Json.Reader.hexValue? '0' = some 0 := by decide
  have hvalue : c.toNat / 16 * 16 + c.toNat % 16 = c.toNat := by omega
  have hescape : Lexer.unicodeEscape?
      ('0' :: '0' :: hexDigit (c.toNat / 16) :: hexDigit (c.toNat % 16) :: rest) =
        some (c.toNat, rest) := by
    simp [Lexer.unicodeEscape?, hzero, hhigh, hlow, hvalue]
  have hlead : ¬(0xD800 ≤ c.toNat ∧ c.toNat ≤ 0xDBFF) := by omega
  have htrail : ¬((0xDC00 ≤ c.toNat ∧ c.toNat ≤ 0xDFFF) ∨ c.toNat = 0xFFFD) := by omega
  simp [stringEscape, hescape, hlead, htrail, Lexer.isLineEnd, Char.ofNat_toNat]

/-- Between quotes a character stands for itself, or a backslash stands in front of what is read as
the character. -/
theorem escape_cases (c : Char) :
    (escape c = [c] ∧ c ≠ '"' ∧ c ≠ '\\' ∧ c ≠ '\n' ∧ c ≠ '\r') ∨
      c ≠ '\uFFFD' ∧ ∃ back, escape c = '\\' :: back ∧
        ∀ pos rest, stringEscape pos (back ++ rest) = ([c], rest, []) := by
  by_cases hshort : c ∈ ['"', '\\', '\n', '\r', '\t', '\x08', '\x0c']
  · refine .inr ?_
    simp only [List.mem_cons, List.not_mem_nil, or_false] at hshort
    rcases hshort with rfl | rfl | rfl | rfl | rfl | rfl | rfl <;>
      exact ⟨by decide, _, rfl, fun _ _ => rfl⟩
  simp only [List.mem_cons, List.not_mem_nil, or_false, not_or] at hshort
  obtain ⟨hquote, hslash, hfeed, hreturn, htab, hback, hpage⟩ := hshort
  have hback : c.toNat ≠ 8 := fun h => hback (by rw [← Char.ofNat_toNat c, h])
  have hpage : c.toNat ≠ 12 := fun h => hpage (by rw [← Char.ofNat_toNat c, h])
  by_cases hcontrol : c.toNat < 32
  · have hne : c ≠ '\uFFFD' := by
      rintro rfl
      exact absurd hcontrol (by decide)
    refine .inr ⟨hne, ['u', '0', '0', hexDigit (c.toNat / 16), hexDigit (c.toNat % 16)], ?_,
      stringEscape_control hcontrol⟩
    simp [escape, *]
  · exact .inl ⟨by simp [escape, *], hquote, hslash, hfeed, hreturn⟩

theorem stringUpTo_escape (c : Char) (pos n : Nat) (found : Text) (escaped : Bool) (rest : Text) :
    ∃ pos' escaped', stringUpTo '"' pos (n + 1) found escaped (escape c ++ rest) =
      stringUpTo '"' pos' n ((keptChar c).reverse ++ found) escaped' rest := by
  rcases escape_cases c with ⟨hself, hquote, hslash, hfeed, hreturn⟩ | ⟨hne, back, hescape, hread⟩
  · rw [hself, List.singleton_append, stringUpTo, if_neg hquote, if_neg hslash,
      if_neg (not_or.mpr ⟨hfeed, hreturn⟩)]
    by_cases hkept : c = '\uFFFD'
    · rw [if_pos hkept, hkept]
      exact ⟨_, _, rfl⟩
    · rw [if_neg hkept, keptChar_of_ne hkept]
      exact ⟨_, _, rfl⟩
  · rw [hescape, keptChar_of_ne hne, List.cons_append, stringUpTo, if_neg (by decide), if_pos rfl,
      hread]
    exact ⟨_, _, rfl⟩

/-- What is written between quotes is read up to the quote at its end. -/
theorem stringUpTo_quote (text : Text) (pos n : Nat) (hn : text.length < n) (found : Text)
    (escaped : Bool) (rest : Text) :
    ∃ escaped', stringUpTo '"' pos n found escaped (text.flatMap escape ++ '"' :: rest) =
      (some ((kept text).reverse ++ found, escaped', rest), []) := by
  induction text generalizing pos n found escaped with
  | nil =>
    cases n with
    | zero => exact absurd hn (Nat.not_lt_zero _)
    | succ n => exact ⟨escaped, rfl⟩
  | cons c text ih =>
    cases n with
    | zero => exact absurd hn (Nat.not_lt_zero _)
    | succ n =>
      obtain ⟨pos', escaped', hstep⟩ := stringUpTo_escape c pos n found escaped
        (text.flatMap escape ++ '"' :: rest)
      obtain ⟨escaped'', hrest⟩ := ih pos' n (Nat.lt_of_succ_lt_succ hn)
        ((keptChar c).reverse ++ found) escaped'
      refine ⟨escaped'', ?_⟩
      rw [List.flatMap_cons, List.append_assoc, hstep, hrest]
      simp [kept]

theorem length_le_length_escape (text : Text) : text.length ≤ (text.flatMap escape).length := by
  induction text with
  | nil => exact Nat.zero_le _
  | cons c text ih =>
    have hc : 1 ≤ (escape c).length := by
      rcases escape_cases c with ⟨hself, -⟩ | ⟨-, back, hescape, -⟩
      · rw [hself]
        exact Nat.le_refl 1
      · rw [hescape]
        exact Nat.succ_le_succ (Nat.zero_le _)
    rw [List.flatMap_cons, List.length_append, List.length_cons]
    omega

theorem token_of_stringUpTo {pos : Nat} {inner found rest : Text} {escaped : Bool}
    (newline : Bool) (h : stringUpTo '"' (pos + 1) (inner.length + 1) [] false inner =
      (some (found, escaped, rest), [])) :
    (Lexer.token newline pos ('"' :: inner)).token.kind = .string ∧
      (Lexer.token newline pos ('"' :: inner)).token.text = String.ofList found.reverse ∧
      (Lexer.token newline pos ('"' :: inner)).rest = rest ∧
      (Lexer.token newline pos ('"' :: inner)).failures = [] := by
  have hword : Text.isIdentifierStart '"' = false := by decide
  simp [Lexer.token, hword, h, Lexer.make]

/-- A quoted text is one string that denotes the text and nothing else, whatever follows it. -/
theorem denotes_quote_iff (text value rest : Text) :
    Denotes (text.quote ++ rest) value rest ↔ value = text := by
  have hself : Denotes (text.quote ++ rest) text rest := by
    intro newline pos
    have hquote : text.quote ++ rest = '"' :: (text.flatMap escape ++ '"' :: rest) := by
      simp [Text.quote]
    have hlength : text.length < (text.flatMap escape ++ '"' :: rest).length + 1 := by
      have hle := length_le_length_escape text
      rw [List.length_append]
      omega
    obtain ⟨escaped, hread⟩ := stringUpTo_quote text (pos + 1) _ hlength [] false rest
    have htoken := token_of_stringUpTo newline hread
    rwa [List.append_nil, List.reverse_reverse, ← hquote] at htoken
  constructor
  · intro h
    have hkept := (h false 0).2.1.symm.trans (hself false 0).2.1
    exact kept_injective (String.ofList_injective hkept)
  · rintro rfl
    exact hself

end ComponentBundle.Script
