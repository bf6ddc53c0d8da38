import ComponentBundle.Proofs.Text.Fold
import ComponentBundle.Proofs.Text.Pieces
import ComponentBundle.Text.Position
import Mathlib.Data.Prod.Lex

/-!
# Places in a text

The position of a place is that of the text in front of it, and it moves forward with every character. A
position within a part of a text is moved by the position where the part begins, and it does not change
with the case of letters.
-/
namespace ComponentBundle

namespace Text

theorem takeBytes_prefix (text : Text) (n : Nat) : text.takeBytes n <+: text :=
  ⟨text.dropBytes n, takeBytes_append_dropBytes text n⟩

theorem takeBytes_append_add (front rest : Text) (n : Nat) :
    (front ++ rest).takeBytes (front.byteLength + n) = front ++ rest.takeBytes n := by
  induction front with
  | nil => simp [byteLength]
  | cons c front ih =>
    rw [List.cons_append, byteLength, takeBytes, if_pos (by omega), Nat.add_assoc,
      Nat.add_sub_cancel_left, ih, List.cons_append]

theorem takeBytes_append_of_le {text : Text} {n : Nat} (h : n ≤ text.byteLength) (back : Text) :
    (text ++ back).takeBytes n = text.takeBytes n := by
  induction text generalizing n with
  | nil => simp [Nat.le_zero.mp h]
  | cons c text ih =>
    rw [List.cons_append, takeBytes, takeBytes]
    split
    · rw [ih (by rw [byteLength] at h; omega)]
    · rfl

end Text

namespace Position

open Text (foldCase)

variable {front rest text : Text}

theorem after_append_of_notMem (h : '\n' ∉ rest) : after (front ++ rest) =
    ⟨(after front).line, (after front).column + rest.length⟩ := by
  have hall : ∀ c ∈ rest.reverse, decide (c ≠ '\n') = true := fun c hc => by
    simpa using ne_of_mem_of_not_mem (List.mem_reverse.mp hc) h
  rw [after, after, List.count_append, List.count_eq_zero_of_not_mem h, List.reverse_append,
    List.takeWhile_append_of_pos hall, List.length_append, List.length_reverse, Int.natCast_add,
    Int.natCast_add, Int.add_comm (rest.length : Int)]
  rfl

theorem after_append_newline (h : '\n' ∉ rest) :
    after (front ++ '\n' :: rest) = ⟨front.count '\n' + 2, rest.length⟩ := by
  have hlast : after (front ++ ['\n']) = ⟨front.count '\n' + 2, 0⟩ := by
    simp [after]
    omega
  rw [List.append_cons, after_append_of_notMem h, hlast, Int.zero_add]

/-- A position as it is compared: by the line, and by the column within a line. -/
def key (position : Position) : ℤ ×ₗ ℤ := toLex (position.line, position.column)

theorem key_injective : Function.Injective key := by
  rintro ⟨line, column⟩ ⟨other, otherColumn⟩ h
  simpa [key] using h

/-- The position moves forward with every character. -/
theorem key_after_lt (front : Text) (h : rest ≠ []) :
    (after front).key < (after (front ++ rest)).key := by
  rw [key, key, Prod.Lex.toLex_lt_toLex]
  by_cases hnewline : '\n' ∈ rest
  · have hpos := List.count_pos_iff.mpr hnewline
    left
    simp only [after, List.count_append]
    omega
  · have hpos := List.length_pos_iff.mpr h
    right
    rw [after_append_of_notMem hnewline]
    exact ⟨rfl, by simp only; omega⟩

theorem after_append_ne (front : Text) (h : rest ≠ []) : after (front ++ rest) ≠ after front :=
  fun heq => (key_after_lt front h).ne (congrArg key heq.symm)

/-- In a text the position tells the place. -/
theorem eq_of_after_eq (hfront : front <+: text) (hrest : rest <+: text) (h : after front = after rest) :
    front = rest := by
  have heq {front rest : Text} (hbegins : front <+: rest) (h : after front = after rest) :
      front = rest := by
    obtain ⟨more, rfl⟩ := hbegins
    by_cases hmore : more = []
    · rw [hmore, List.append_nil]
    · exact absurd h.symm (after_append_ne front hmore)
  rcases List.prefix_or_prefix_of_prefix hfront hrest with hbegins | hbegins
  · exact heq hbegins h
  · exact (heq hbegins h.symm).symm

/-- A text is a first line, or it has a last line behind its last line feed. -/
theorem after_cases (text : Text) :
    ('\n' ∉ text ∧ after text = ⟨1, text.length⟩) ∨
      ∃ front last, text = front ++ '\n' :: last ∧ '\n' ∉ last ∧
        after text = ⟨front.count '\n' + 2, last.length⟩ := by
  by_cases h : '\n' ∈ text
  · obtain ⟨last, first, hsplit, hlast⟩ := List.eq_append_cons_of_mem (List.mem_reverse.mpr h)
    obtain rfl : text = first.reverse ++ '\n' :: last.reverse := by
      simpa using congrArg List.reverse hsplit
    have hlast : '\n' ∉ last.reverse := by simpa using hlast
    exact .inr ⟨_, _, rfl, hlast, after_append_newline hlast⟩
  · have hempty : after ([] ++ text) = _ := after_append_of_notMem h
    exact .inl ⟨h, by simpa [after] using hempty⟩

/-- The position of a place is moved by what comes in front of the text. -/
theorem after_append (front rest : Text) :
    after (front ++ rest) = (after rest).shift (after front) := by
  rcases after_cases rest with ⟨h, hrest⟩ | ⟨first, last, rfl, hlast, hrest⟩
  · rw [after_append_of_notMem h, hrest, shift, if_pos (Int.le_refl 1)]
  · have hline : ¬((first.count '\n' : Int) + 2 ≤ 1) := by omega
    rw [hrest, ← List.append_assoc, after_append_newline hlast, shift, if_neg hline,
      List.count_append, after]
    simp only [Position.mk.injEq, and_true]
    omega

theorem ofOffset_byteLength (h : front <+: text) : ofOffset text front.byteLength = after front := by
  obtain ⟨rest, rfl⟩ := h
  rw [ofOffset, Text.takeBytes_append]

/-- The position of a byte of a part is moved to that of the same byte of the whole. -/
theorem ofOffset_shift {content : Text} {offset : Nat} (h : offset ≤ content.byteLength)
    (front back : Text) :
    (ofOffset content offset).shift (ofOffset (front ++ (content ++ back)) front.byteLength) =
      ofOffset (front ++ (content ++ back)) (front.byteLength + offset) := by
  rw [ofOffset_byteLength (List.prefix_append ..), ofOffset, ofOffset, Text.takeBytes_append_add,
    Text.takeBytes_append_of_le h, after_append]

theorem foldCase_eq_newline_iff (c : Char) : foldCase c = '\n' ↔ c = '\n' :=
  Text.foldCase_eq_iff (by decide) (by decide)

theorem after_map_foldCase (text : Text) : after (text.map foldCase) = after text := by
  have hnewline : (fun c => decide (foldCase c ≠ '\n')) = fun c => decide (c ≠ '\n') := by
    simp [foldCase_eq_newline_iff]
  have hcount : (text.map foldCase).count '\n' = text.count '\n' := by
    have hsame : ((· == '\n') ∘ foldCase) = (· == '\n') := by
      funext c
      rw [Bool.eq_iff_iff, Function.comp_apply, beq_iff_eq, beq_iff_eq, foldCase_eq_newline_iff]
    rw [List.count, List.countP_map, hsame]
  rw [after, after, hcount, ← List.map_reverse, List.takeWhile_map, List.length_map]
  simp only [Function.comp_def, hnewline]

theorem after_eq_of_map_foldCase_eq (h : front.map foldCase = rest.map foldCase) :
    after front = after rest := by
  rw [← after_map_foldCase, h, after_map_foldCase]

end Position

end ComponentBundle
