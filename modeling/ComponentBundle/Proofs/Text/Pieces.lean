import ComponentBundle.Text.Basic

/-!
# Pieces of a text

A separating character cuts a text into pieces. Where the separator stands, cutting distributes over
appending; no piece holds the separator, and pieces that were put together with separators come out
again, as does the text of its pieces. The bytes of a text are those of its parts.
-/
namespace ComponentBundle.Text

variable {separator : Char}

@[simp] theorem splitOnChar_nil : splitOnChar separator [] = [[]] := rfl

theorem splitOnChar_ne_nil (text : Text) : splitOnChar separator text ≠ [] := by
  cases text with
  | nil => simp
  | cons c rest =>
    rw [splitOnChar]
    split
    · simp
    · split <;> simp

@[simp] theorem splitOnChar_cons_self (rest : Text) :
    splitOnChar separator (separator :: rest) = [] :: splitOnChar separator rest := by
  have hne := @splitOnChar_ne_nil separator rest
  rw [splitOnChar]
  split
  · contradiction
  · simp [*]

theorem splitOnChar_cons_of_ne {c : Char} (hc : c ≠ separator) (rest : Text) :
    ∃ piece pieces, splitOnChar separator rest = piece :: pieces ∧
      splitOnChar separator (c :: rest) = (c :: piece) :: pieces := by
  cases hs : splitOnChar separator rest with
  | nil => exact absurd hs (splitOnChar_ne_nil rest)
  | cons piece pieces => exact ⟨piece, pieces, rfl, by simp [splitOnChar, hs, hc]⟩

/-- A separator inside a text cuts it into the pieces on its two sides. -/
theorem splitOnChar_append_separator (front rest : Text) :
    splitOnChar separator (front ++ separator :: rest) =
      splitOnChar separator front ++ splitOnChar separator rest := by
  induction front with
  | nil => simp
  | cons c front ih =>
    by_cases hc : c = separator
    · subst hc
      simp [ih]
    · obtain ⟨piece, pieces, hfront, hcons⟩ := splitOnChar_cons_of_ne hc front
      obtain ⟨piece', pieces', hall, hcons'⟩ :=
        splitOnChar_cons_of_ne hc (front ++ separator :: rest)
      rw [ih, hfront] at hall
      simp only [List.cons_append, List.cons.injEq] at hall
      rw [List.cons_append, hcons', hcons, ← hall.1, ← hall.2]
      rfl

theorem splitOnChar_of_notMem {text : Text} (h : separator ∉ text) :
    splitOnChar separator text = [text] := by
  induction text with
  | nil => rfl
  | cons c rest ih =>
    obtain ⟨hc, hrest⟩ := List.ne_and_not_mem_of_not_mem_cons h
    simp [splitOnChar, ih hrest, Ne.symm hc]

theorem notMem_of_mem_splitOnChar {text piece : Text} (h : piece ∈ splitOnChar separator text) :
    separator ∉ piece := by
  induction text generalizing piece with
  | nil => simp_all
  | cons c rest ih =>
    by_cases hc : c = separator
    · subst hc
      rcases List.mem_cons.mp (splitOnChar_cons_self rest ▸ h) with rfl | hmem
      · simp
      · exact ih hmem
    · obtain ⟨first, pieces, hrest, hcons⟩ := splitOnChar_cons_of_ne hc rest
      rw [hcons] at h
      rcases List.mem_cons.mp h with rfl | hmem
      · have hfirst : separator ∉ first := ih (by simp [hrest])
        simp [hfirst, Ne.symm hc]
      · exact ih (by simp [hrest, hmem])

/-- Pieces with a separator in front of all but the first come out of the text they make. -/
theorem splitOnChar_append_flatMap {first : Text} {pieces : List Text} (hfirst : separator ∉ first)
    (hpieces : ∀ piece ∈ pieces, separator ∉ piece) :
    splitOnChar separator (first ++ pieces.flatMap (separator :: ·)) = first :: pieces := by
  induction pieces generalizing first with
  | nil => simpa using splitOnChar_of_notMem hfirst
  | cons piece pieces ih =>
    have hrest := ih (hpieces piece List.mem_cons_self)
      fun piece hpiece => hpieces piece (List.mem_cons_of_mem _ hpiece)
    rw [List.flatMap_cons, List.cons_append, splitOnChar_append_separator, hrest,
      splitOnChar_of_notMem hfirst]
    rfl

/-- A separator in front of each piece puts the text together again, behind one more separator. -/
theorem flatMap_splitOnChar (text : Text) :
    (splitOnChar separator text).flatMap (separator :: ·) = separator :: text := by
  induction text with
  | nil => rfl
  | cons c rest ih =>
    by_cases hc : c = separator
    · subst hc
      rw [splitOnChar_cons_self, List.flatMap_cons, ih]
      rfl
    · obtain ⟨piece, pieces, hrest, hcons⟩ := splitOnChar_cons_of_ne hc rest
      rw [hrest, List.flatMap_cons, List.cons_append, List.cons_inj_right] at ih
      rw [hcons, List.flatMap_cons, List.cons_append, List.cons_append, ih]

theorem joinWith_cons (separator first : Text) (rest : List Text) :
    joinWith separator (first :: rest) = first ++ rest.flatMap (separator ++ ·) := by
  induction rest generalizing first with
  | nil => simp [joinWith]
  | cons second rest ih => simp [joinWith, ih]

/-- Texts one below the other have their own lines. -/
theorem lines_flatMap (texts : List Text) (back : Text) :
    lines (texts.flatMap (· ++ ['\n']) ++ back) = texts.flatMap lines ++ lines back := by
  induction texts with
  | nil => rfl
  | cons text texts ih =>
    rw [List.flatMap_cons, List.flatMap_cons, List.append_assoc, List.append_assoc,
      List.append_assoc, ← ih]
    exact splitOnChar_append_separator text _

theorem lines_append_of_notMem {texts : List Text} (h : ∀ text ∈ texts, '\n' ∉ text) (back : Text) :
    lines (texts.flatMap (· ++ ['\n']) ++ back) = texts ++ lines back := by
  have hlines : texts.map lines = texts.map fun text => [text] :=
    List.map_congr_left fun text htext => splitOnChar_of_notMem (h text htext)
  rw [lines_flatMap, List.flatMap_def, hlines, ← List.flatMap_def, List.flatMap_singleton']

theorem takeWhile_ne_append {front : Text} (h : separator ∉ front) (rest : Text) :
    (front ++ separator :: rest).takeWhile (· ≠ separator) = front := by
  rw [List.takeWhile_append_of_pos fun c hc => by simpa using ne_of_mem_of_not_mem hc h]
  simp

theorem dropWhile_ne_append {front : Text} (h : separator ∉ front) (rest : Text) :
    (front ++ separator :: rest).dropWhile (· ≠ separator) = separator :: rest := by
  rw [List.dropWhile_append_of_pos fun c hc => by simpa using ne_of_mem_of_not_mem hc h]
  simp

/-- A text with a separator in it is what is in front of the first one, and what is behind. -/
theorem eq_append_of_dropWhile_ne {text rest : Text} {c : Char}
    (h : text.dropWhile (· ≠ separator) = c :: rest) :
    text = text.takeWhile (· ≠ separator) ++ separator :: rest ∧
      separator ∉ text.takeWhile (· ≠ separator) := by
  have hc : c = separator := by
    have hhead := List.head?_dropWhile_not (· ≠ separator) text
    rw [h] at hhead
    simpa using hhead
  constructor
  · rw [← hc, ← h, hc, List.takeWhile_append_dropWhile]
  · intro hmem
    simpa using List.all_eq_true.mp List.all_takeWhile _ hmem

theorem byteLength_append (front rest : Text) :
    byteLength (front ++ rest) = byteLength front + byteLength rest := by
  induction front with
  | nil => simp [byteLength]
  | cons c front ih => simp only [List.cons_append, byteLength, ih, Nat.add_assoc]

theorem byteLength_le_of_prefix {front text : Text} (h : front <+: text) :
    byteLength front ≤ byteLength text := by
  obtain ⟨rest, rfl⟩ := h
  simp [byteLength_append]

/-- What stands from one byte up to another one. -/
def slice (text : Text) (place : Nat × Nat) : Text :=
  (text.dropBytes place.1).takeBytes (place.2 - place.1)

@[simp] theorem dropBytes_zero (text : Text) : text.dropBytes 0 = text := by
  cases text with
  | nil => rfl
  | cons c text => exact if_neg (Nat.not_le.mpr c.utf8Size_pos)

@[simp] theorem takeBytes_zero (text : Text) : text.takeBytes 0 = [] := by
  cases text with
  | nil => rfl
  | cons c text => exact if_neg (Nat.not_le.mpr c.utf8Size_pos)

theorem dropBytes_append (front text : Text) :
    (front ++ text).dropBytes front.byteLength = text := by
  induction front with
  | nil => exact dropBytes_zero text
  | cons c front ih => simp [byteLength, dropBytes, ih]

theorem takeBytes_append (text back : Text) : (text ++ back).takeBytes text.byteLength = text := by
  induction text with
  | nil => exact takeBytes_zero back
  | cons c text ih => simp [byteLength, takeBytes, ih]

theorem slice_append (front text back : Text) : (front ++ (text ++ back)).slice
    (front.byteLength, front.byteLength + text.byteLength) = text := by
  rw [slice, dropBytes_append, Nat.add_sub_cancel_left, takeBytes_append]

theorem byteLength_replicate_newline (n : Nat) : byteLength (List.replicate n '\n') = n := by
  induction n with
  | zero => rfl
  | succ n ih =>
    have hsize : '\n'.utf8Size = 1 := by decide
    rw [List.replicate_succ, byteLength, ih, hsize, Nat.add_comm]

end ComponentBundle.Text
