import ComponentBundle.Proofs.Text.Place
import Mathlib.Data.List.Infix
import Mathlib.Data.Nat.Find

/-!
# Places in order

A byte offset counts as the last boundary between characters at or before it, and its position is that
of this boundary. Positions, compared by the line first, are in the order of the boundaries, and no two
boundaries have the same one: who skips as many lines and then as many characters as a position says
comes to its boundary again.
-/
namespace ComponentBundle

namespace Text

variable {text front rest : Text} {offset : Nat}

/-- Whether an offset is where a beginning of the text ends, so that no character is cut there. -/
def IsBoundary (text : Text) (offset : Nat) : Prop :=
  ∃ front : Text, front <+: text ∧ front.byteLength = offset

instance : DecidablePred text.IsBoundary := fun offset =>
  decidable_of_iff (offset ∈ text.inits.map byteLength) (by simp [IsBoundary])

/-- The last boundary at or before an offset. -/
def roundDown (text : Text) (offset : Nat) : Nat := Nat.findGreatest text.IsBoundary offset

theorem byteLength_takeBytes_le (text : Text) (offset : Nat) :
    (text.takeBytes offset).byteLength ≤ offset := by
  induction text generalizing offset with
  | nil => simp [takeBytes, byteLength]
  | cons c text ih =>
    rw [takeBytes]
    split
    · have hrest := ih (offset - c.utf8Size)
      rw [byteLength]
      omega
    · simp [byteLength]

/-- Every beginning of the text that fits into the bytes is taken. -/
theorem prefix_takeBytes (h : front <+: text) (hle : front.byteLength ≤ offset) :
    front <+: text.takeBytes offset := by
  obtain ⟨rest, rfl⟩ := h
  obtain ⟨more, rfl⟩ := Nat.exists_eq_add_of_le hle
  rw [takeBytes_append_add]
  exact List.prefix_append _ _

theorem byteLength_takeBytes (text : Text) (offset : Nat) :
    (text.takeBytes offset).byteLength = text.roundDown offset := by
  refine (Nat.findGreatest_eq_iff.mpr ⟨byteLength_takeBytes_le text offset, fun _ => ?_, ?_⟩).symm
  · exact ⟨_, takeBytes_prefix text offset, rfl⟩
  · rintro boundary hlt hle ⟨front, hfront, rfl⟩
    have hfits := byteLength_le_of_prefix (prefix_takeBytes hfront hle)
    omega

theorem roundDown_of_isBoundary (h : text.IsBoundary offset) : text.roundDown offset = offset :=
  Nat.findGreatest_eq h

theorem roundDown_of_le (h : text.byteLength ≤ offset) : text.roundDown offset = text.byteLength := by
  have hall : text <+: text.takeBytes offset := prefix_takeBytes (List.prefix_refl text) h
  have hback : text.takeBytes offset <+: text := takeBytes_prefix text offset
  have htaken : text.takeBytes offset = text := hback.eq_of_length_le hall.length_le
  rw [← byteLength_takeBytes, htaken]

/-- Beginnings of one text are told by their bytes. -/
theorem byteLength_le_iff (hfront : front <+: text) (hrest : rest <+: text) :
    front.byteLength ≤ rest.byteLength ↔ front <+: rest := by
  refine ⟨fun hle => ?_, byteLength_le_of_prefix⟩
  have hfits := prefix_takeBytes hfront hle
  obtain ⟨back, rfl⟩ := hrest
  rwa [takeBytes_append] at hfits

def skipLine? : Text → Option Text
  | [] => none
  | c :: rest => if c = '\n' then some rest else skipLine? rest

def skipLines? : Nat → Text → Option Text
  | 0, text => some text
  | n + 1, text => (skipLine? text).bind (skipLines? n)

def skip? : Nat → Text → Option Text
  | 0, text => some text
  | _ + 1, [] => none
  | n + 1, _ :: rest => skip? n rest

theorem skipLines?_append_newline (front rest : Text) :
    skipLines? (front.count '\n' + 1) (front ++ '\n' :: rest) = some rest := by
  induction front with
  | nil => rfl
  | cons c front ih =>
    by_cases hc : c = '\n'
    · subst hc
      rw [List.count_cons_self]
      exact ih
    · have hskip : skipLine? (c :: (front ++ '\n' :: rest)) = skipLine? (front ++ '\n' :: rest) :=
        if_neg hc
      rw [List.count_cons_of_ne hc, List.cons_append, skipLines?, hskip]
      exact ih

theorem skip?_append (front rest : Text) : skip? front.length (front ++ rest) = some rest := by
  induction front with
  | nil => rfl
  | cons c front ih => exact ih

end Text

namespace Position

variable {source front rest : Text}

theorem key_after_le (h : front <+: rest) : (after front).key ≤ (after rest).key := by
  obtain ⟨more, rfl⟩ := h
  by_cases hmore : more = []
  · rw [hmore, List.append_nil]
  · exact (key_after_lt front hmore).le

theorem key_after_le_iff (hfront : front <+: source) (hrest : rest <+: source) :
    (after front).key ≤ (after rest).key ↔ front <+: rest := by
  refine ⟨fun h => ?_, key_after_le⟩
  rcases List.prefix_or_prefix_of_prefix hfront hrest with hbegins | hbegins
  · exact hbegins
  · have hkey : (after front).key = (after rest).key := le_antisymm h (key_after_le hbegins)
    rw [eq_of_after_eq hfront hrest (key_injective hkey)]

/-- Positions are in the order of the boundaries that the offsets count as. -/
theorem key_ofOffset_le_iff (source : Text) (first second : Nat) :
    (ofOffset source first).key ≤ (ofOffset source second).key ↔
      source.roundDown first ≤ source.roundDown second := by
  have hfirst := Text.takeBytes_prefix source first
  have hsecond := Text.takeBytes_prefix source second
  rw [ofOffset, ofOffset, key_after_le_iff hfirst hsecond, ← Text.byteLength_le_iff hfirst hsecond,
    Text.byteLength_takeBytes, Text.byteLength_takeBytes]

theorem ofOffset_eq_iff (source : Text) (first second : Nat) :
    ofOffset source first = ofOffset source second ↔
      source.roundDown first = source.roundDown second := by
  rw [← key_injective.eq_iff, le_antisymm_iff, key_ofOffset_le_iff, key_ofOffset_le_iff,
    ← le_antisymm_iff]

/-- The offset that a position leads to: behind a line feed for each line above it and, from there,
behind as many characters as its column counts. -/
def offset? (position : Position) (source : Text) : Option Nat :=
  ((Text.skipLines? (position.line - 1).toNat source).bind (Text.skip? position.column.toNat)).map
    fun rest => source.byteLength - rest.byteLength

theorem offset?_after (front rest : Text) :
    (after front).offset? (front ++ rest) = some front.byteLength := by
  have hrest : (Text.skipLines? ((after front).line - 1).toNat (front ++ rest)).bind
      (Text.skip? (after front).column.toNat) = some rest := by
    rcases after_cases front with ⟨-, hafter⟩ | ⟨first, last, rfl, -, hafter⟩
    · rw [hafter]
      exact Text.skip?_append front rest
    · have hline : ((first.count '\n' : Int) + 2 - 1).toNat = first.count '\n' + 1 := by omega
      rw [hafter, hline, List.append_assoc, List.cons_append, Text.skipLines?_append_newline]
      exact Text.skip?_append last rest
  rw [offset?, hrest, Option.map_some, Text.byteLength_append, Nat.add_sub_cancel]

/-- From the position of any offset one comes to the boundary that it counts as. -/
theorem offset?_ofOffset (source : Text) (offset : Nat) :
    (ofOffset source offset).offset? source = some (source.roundDown offset) := by
  have hplace := offset?_after (source.takeBytes offset) (source.dropBytes offset)
  rwa [Text.takeBytes_append_dropBytes, Text.byteLength_takeBytes] at hplace

/-- The lines and the columns together are no more than the characters, and one line. -/
theorem line_add_column_le (text : Text) :
    1 ≤ (after text).line ∧ 0 ≤ (after text).column ∧
      (after text).line + (after text).column ≤ text.length + 1 := by
  rcases after_cases text with ⟨-, hafter⟩ | ⟨first, last, rfl, -, hafter⟩
  · rw [hafter]
    simp only
    omega
  · have hcount : first.count '\n' ≤ first.length := List.count_le_length
    rw [hafter]
    simp only [List.length_append, List.length_cons]
    omega

theorem ofOffset_bounds (source : Text) (offset : Nat) :
    1 ≤ (ofOffset source offset).line ∧ 0 ≤ (ofOffset source offset).column ∧
      (ofOffset source offset).line + (ofOffset source offset).column ≤ source.length + 1 := by
  have hlength := (Text.takeBytes_prefix source offset).length_le
  obtain ⟨hline, hcolumn, hsum⟩ := line_add_column_le (source.takeBytes offset)
  rw [ofOffset]
  omega

/-- Positions embed the places of a text. A later offset, be it within a character or past the end, has
no smaller position, and two offsets have the same one exactly if they count as the same boundary, past
the end as the end. From the position of a boundary, skipping the lines above it and then as many
characters as its column counts leads back to the boundary. Neither number is larger than that of the
characters and one. -/
theorem ofOffset_embeds_order (source : Text) {first second : Nat} (h : first ≤ second) :
    (ofOffset source first).key ≤ (ofOffset source second).key ∧
      (ofOffset source first = ofOffset source second ↔
        source.roundDown first = source.roundDown second) ∧
      (∀ offset, source.byteLength ≤ offset → source.roundDown offset = source.byteLength) ∧
      (∀ offset, source.IsBoundary offset →
        (ofOffset source offset).offset? source = some offset) ∧
      ∀ offset, 1 ≤ (ofOffset source offset).line ∧ 0 ≤ (ofOffset source offset).column ∧
        (ofOffset source offset).line + (ofOffset source offset).column ≤ source.length + 1 := by
  refine ⟨?later, ofOffset_eq_iff source first second, fun _ => Text.roundDown_of_le,
    fun offset hboundary => ?back, ofOffset_bounds source⟩
  case later => exact (key_ofOffset_le_iff source first second).mpr (Nat.findGreatest_mono_right _ h)
  case back => rw [offset?_ofOffset, Text.roundDown_of_isBoundary hboundary]

/-- Two offsets within the last letter of a text, which takes four bytes and stands behind an empty
line, and the boundary in front of it. -/
theorem ofOffset_embeds_order_wide :
    let source := "é\r\n\n𝄞".toList
    6 ≤ 8 ∧ (ofOffset source 6).key ≤ (ofOffset source 8).key ∧
      ofOffset source 6 = ofOffset source 8 ∧ ofOffset source 5 = ⟨3, 0⟩ ∧
      (ofOffset source 5).offset? source = some 5 := by
  intro source
  have hoffsets : 6 ≤ 8 := by decide
  obtain ⟨hle, heq, -, hback, -⟩ := ofOffset_embeds_order source hoffsets
  exact ⟨hoffsets, hle, heq.mpr (by decide +kernel), by decide, hback 5 (by decide +kernel)⟩

end Position

end ComponentBundle
