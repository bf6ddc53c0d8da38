import ComponentBundle.Markup.Attribute
import ComponentBundle.Proofs.Text.Fold
import ComponentBundle.Proofs.Text.Pieces

/-!
# Attributes are read as they are written

Attributes are looked for wherever a name stands, in values as well as between them. Where each one is
written behind a blank, with its value in quotes, bare or left out, a name is found at the beginning of an
attribute only, and what is read is the list of what was written.
-/
namespace ComponentBundle.Markup

open Text (isBlank)

namespace Attributes

variable {c quote : Char} {name after text rest value : Text} {entries : List (Text × Text)} {n : Nat}

theorem isNameChar_of_isAlphanum (h : c.isAlphanum = true) : isNameChar c = true := by
  have hall : ∀ n < 128, (Char.ofNat n).isAlphanum = true → isNameChar (Char.ofNat n) = true := by
    decide +kernel
  have hchar := hall c.toNat (Text.toNat_lt_of_isAlphanum h)
  rw [Char.ofNat_toNat] at hchar
  exact hchar h

theorem isNameChar_of_isBlank (h : isBlank c = true) : isNameChar c = false := by
  have hmarks : c ≠ ':' ∧ c ≠ '-' :=
    ⟨fun hc => absurd (hc ▸ h) (by decide), fun hc => absurd (hc ▸ h) (by decide)⟩
  rw [isNameChar, Text.foldCase_of_isBlank h]
  simp only [isBlank, Bool.or_eq_true, Bool.and_eq_true, decide_eq_true_eq, beq_iff_eq] at h
  simp only [Char.isDigit, Char.le_def, UInt32.le_iff_toNat_le, ge_iff_le, Bool.or_eq_false_iff,
    Bool.and_eq_false_iff, decide_eq_false_iff_not, beq_eq_false_iff_ne]
  refine ⟨⟨?_, hmarks.1⟩, hmarks.2⟩
  change (¬97 ≤ c.toNat ∨ ¬c.toNat ≤ 122) ∧ (¬48 ≤ c.toNat ∨ ¬c.toNat ≤ 57)
  omega

theorem isNameChar_foldCase (c : Char) : isNameChar (Text.foldCase c) = isNameChar c := by
  simp only [isNameChar, Text.foldCase_foldCase]

theorem ne_of_isNameChar {d : Char} (h : isNameChar c = true) (hd : isNameChar d = false) : c ≠ d := by
  rintro rfl
  rw [h] at hd
  cases hd

theorem get?_nil (name : Text) : get? [] name = none := rfl

theorem get?_cons (entry : Text × Text) (found : Attributes) (name : Text) :
    get? (entry :: found) name = if entry.1 = name then some entry.2 else found.get? name := by
  rw [get?, List.find?_cons]
  by_cases h : entry.1 = name <;> simp [h, get?]

theorem get?_append (found : Attributes) (entry : Text × Text) (name : Text) :
    get? (found ++ [entry]) name =
      (found.get? name).or (if entry.1 = name then some entry.2 else none) := by
  induction found with
  | nil => rw [List.nil_append, get?_cons, get?_nil, Option.none_or]
  | cons first found ih =>
    rw [List.cons_append, get?_cons, get?_cons, ih]
    by_cases h : first.1 = name <;> simp [h]

theorem any_eq_isSome_get? (found : Attributes) (name : Text) :
    found.any (fun entry => entry.1 = name) = (found.get? name).isSome := by
  induction found with
  | nil => rfl
  | cons first found ih =>
    rw [List.any_cons, ih, get?_cons]
    by_cases h : first.1 = name <;> simp [h]

theorem get?_map_ite (found : Attributes) (name value other : Text) :
    get? (found.map fun entry => if entry.1 = name then (name, value) else entry) other =
      if other = name then (found.get? name).map fun _ => value else found.get? other := by
  induction found with
  | nil => simp [get?_nil]
  | cons first found ih =>
    rw [List.map_cons, get?_cons, get?_cons, get?_cons, ih]
    by_cases hfirst : first.1 = name
    · by_cases hother : other = name
      · simp [hfirst, hother]
      · simp [hfirst, hother, Ne.symm hother]
    · by_cases hother : other = name
      · simp [hfirst, hother]
      · simp [hfirst, hother]

/-- A name that is given a value has that one, and the other names keep theirs. -/
theorem get?_insert (found : Attributes) (name value other : Text) :
    (found.insert name value).get? other = if other = name then some value else found.get? other := by
  rw [insert, any_eq_isSome_get?]
  by_cases hother : other = name
  · subst hother
    cases hfound : found.get? other <;> simp [hfound, get?_map_ite, get?_append]
  · cases hfound : found.get? name <;>
      simp [hother, Ne.symm hother, get?_map_ite, get?_append]

/-- Where names are different, a name has the value that it stands with. -/
theorem get?_eq_some_iff {found : Attributes} (h : (found.map (·.1)).Nodup) :
    found.get? name = some value ↔ (name, value) ∈ found := by
  induction found with
  | nil => simp [get?_nil]
  | cons first found ih =>
    obtain ⟨hnew, hrest⟩ := List.nodup_cons.mp h
    rw [get?_cons, List.mem_cons]
    split
    · rename_i hfirst
      have hmem : (name, value) ∉ found := fun hmem =>
        hnew (List.mem_map.mpr ⟨_, hmem, hfirst.symm⟩)
      rw [Option.some.injEq, or_iff_left hmem, ← hfirst, Prod.ext_iff]
      simp [eq_comm]
    · rename_i hfirst
      rw [ih hrest, or_iff_right fun heq => hfirst (congrArg Prod.fst heq).symm]

def insertAll (found : Attributes) (entries : List (Text × Text)) : Attributes :=
  entries.foldl (fun found entry => Attributes.insert found entry.1 entry.2) found

theorem insertAll_of_nodup {found : Attributes} (h : ((found ++ entries).map (·.1)).Nodup) :
    found.insertAll entries = found ++ entries := by
  induction entries generalizing found with
  | nil => simp [insertAll]
  | cons entry entries ih =>
    have hnew : found.any (fun other => other.1 = entry.1) = false := by
      rw [List.map_append, List.map_cons, List.nodup_append] at h
      simpa using fun a b hmem => h.2.2 a (List.mem_map_of_mem hmem) entry.1 List.mem_cons_self
    have hnext : found.insertAll (entry :: entries) = (found ++ [entry]).insertAll entries := by
      rw [insertAll, List.foldl_cons, insert, hnew]
      rfl
    rw [hnext, ih (by simpa using h), List.append_assoc]
    rfl

theorem isSome_get?_insertAll {found : Attributes} :
    ((found.insertAll entries).get? name).isSome ↔
      (found.get? name).isSome ∨ name ∈ entries.map (·.1) := by
  induction entries generalizing found with
  | nil => simp [insertAll]
  | cons entry entries ih =>
    have hnext : found.insertAll (entry :: entries) = (found.insert entry.1 entry.2).insertAll entries :=
      rfl
    rw [hnext, ih, get?_insert, List.map_cons, List.mem_cons]
    by_cases h : name = entry.1 <;> simp [h]

def valueBehind (after : Text) : Text × Text := (value? after).getD (bareName, after)

/-- The ways to read a text: a name is taken as a whole, with the value behind it if there is one, and
any other character is passed over. -/
inductive Reads : Text → List (Text × Text) → Prop where
  | nil : Reads [] []
  | skip {c : Char} {text : Text} {entries : List (Text × Text)} (other : isNameChar c = false)
      (rest : Reads text entries) : Reads (c :: text) entries
  | name {name after : Text} {entries : List (Text × Text)} (ne_nil : name ≠ [])
      (isNameChar : ∀ c ∈ name, isNameChar c = true)
      (ends : ∀ c ∈ after.head?, Attributes.isNameChar c = false)
      (rest : Reads (valueBehind after).2 entries) :
      Reads (name ++ after) ((name, (valueBehind after).1) :: entries)

theorem takeWhile_append_of_head? {p : Char → Bool} (htext : ∀ c ∈ text, p c = true)
    (hrest : ∀ c ∈ rest.head?, p c = false) :
    (text ++ rest).takeWhile p = text ∧ (text ++ rest).dropWhile p = rest := by
  rw [List.takeWhile_append_of_pos htext, List.dropWhile_append_of_pos htext]
  cases rest with
  | nil => simp
  | cons c rest => simp [hrest c rfl]

theorem quoted?_eq_some_iff : quoted? quote text = some (value, rest) ↔
    quote ∉ value ∧ text = quote :: (value ++ quote :: rest) := by
  cases text with
  | nil => simp [quoted?]
  | cons c text =>
    rw [quoted?]
    constructor
    · intro h
      split at h
      · rename_i hc
        subst hc
        split at h
        · cases h
        · rename_i d behind hbehind
          obtain ⟨rfl, rfl⟩ := Prod.mk.inj (Option.some.inj h)
          obtain ⟨hsplit, hmem⟩ := Text.eq_append_of_dropWhile_ne hbehind
          exact ⟨hmem, congrArg _ hsplit⟩
      · cases h
    · rintro ⟨hmem, htext⟩
      obtain ⟨rfl, rfl⟩ := List.cons.inj htext
      rw [if_pos rfl, Text.dropWhile_ne_append hmem, Text.takeWhile_ne_append hmem]

theorem bare?_eq (text : Text) : bare? text =
    if text.takeWhile isBareChar = [] then none
    else some (text.takeWhile isBareChar, text.dropWhile isBareChar) := by
  rw [bare?]
  cases text.takeWhile isBareChar <;> rfl

theorem exists_of_value? (h : value? after = some (value, rest)) : ∃ text, after = '=' :: text ∧
    (quoted? '"' text = some (value, rest) ∨ quoted? '\'' text = some (value, rest) ∨
      bare? text = some (value, rest)) := by
  unfold value? at h
  split at h
  · rename_i text
    simp only [Option.or_eq_some_iff] at h
    exact ⟨text, rfl, h.imp_right fun h => h.2.imp_right fun h => h.2⟩
  · cases h

theorem length_valueBehind_le (after : Text) : (valueBehind after).2.length ≤ after.length := by
  have hquoted {quote : Char} {text value rest : Text}
      (h : quoted? quote text = some (value, rest)) : rest.length ≤ text.length := by
    obtain ⟨-, rfl⟩ := quoted?_eq_some_iff.mp h
    simp
    omega
  have hbare {text value rest : Text} (h : bare? text = some (value, rest)) :
      rest.length ≤ text.length := by
    rw [bare?_eq] at h
    obtain ⟨-, hsome⟩ := Option.ite_none_left_eq_some.mp h
    obtain ⟨-, rfl⟩ := Prod.mk.inj (Option.some.inj hsome)
    exact (List.dropWhile_suffix _).length_le
  rw [valueBehind]
  cases hvalue : value? after with
  | none => exact Nat.le_refl _
  | some found =>
    obtain ⟨value, rest⟩ := found
    obtain ⟨text, rfl, h | h | h⟩ := exists_of_value? hvalue
    · exact Nat.le_succ_of_le (hquoted h)
    · exact Nat.le_succ_of_le (hquoted h)
    · exact Nat.le_succ_of_le (hbare h)

theorem readUpTo_name {found : Attributes} (hne : name ≠ []) (hname : ∀ c ∈ name, isNameChar c = true)
    (hends : ∀ c ∈ after.head?, isNameChar c = false) :
    readUpTo (n + 1) (name ++ after) found =
      readUpTo n (valueBehind after).2 (found.insert name (valueBehind after).1) := by
  obtain ⟨c, inner, rfl⟩ := List.exists_cons_of_ne_nil hne
  obtain ⟨htake, hdrop⟩ := takeWhile_append_of_head? hname hends
  rw [List.cons_append] at htake hdrop ⊢
  rw [readUpTo, if_pos (hname c List.mem_cons_self)]
  simp only [htake, hdrop]
  rw [valueBehind]
  cases value? after <;> rfl

theorem Reads.readUpTo_eq {found : Attributes} (h : Reads text entries) (hn : text.length ≤ n) :
    readUpTo n text found = found.insertAll entries := by
  induction h generalizing n found with
  | nil => cases n <;> rfl
  | skip hother _ ih =>
    cases n with
    | zero => cases hn
    | succ n =>
      rw [readUpTo, hother]
      exact ih (Nat.le_of_succ_le_succ hn)
  | @name name after entries hne hname hends _ ih =>
    have hlength := length_valueBehind_le after
    have hpos := List.length_pos_iff.mpr hne
    rw [List.length_append] at hn
    obtain ⟨m, rfl⟩ : ∃ m, n = m + 1 := ⟨n - 1, by omega⟩
    rw [readUpTo_name hne hname hends, ih (by omega)]
    rfl

/-- What is read are the entries, the later ones in place of earlier ones of the same name. -/
theorem Reads.ofText_eq (h : Reads text entries) : ofText text = insertAll [] entries :=
  h.readUpTo_eq (Nat.le_refl _)

theorem exists_reads (text : Text) : ∃ entries, Reads text entries := by
  induction hn : text.length using Nat.strongRecOn generalizing text with
  | ind n ih =>
    cases text with
    | nil => exact ⟨[], .nil⟩
    | cons c text =>
      cases hc : isNameChar c with
      | false =>
        obtain ⟨entries, hentries⟩ := ih text.length (by simp [← hn]) text rfl
        exact ⟨entries, .skip hc hentries⟩
      | true =>
        have hsplit : (c :: text).takeWhile isNameChar ++ (c :: text).dropWhile isNameChar = c :: text :=
          List.takeWhile_append_dropWhile
        have hlengths := congrArg List.length hsplit
        rw [List.length_append, hn] at hlengths
        have hne : (c :: text).takeWhile isNameChar ≠ [] := by simp [hc]
        have hpos := List.length_pos_iff.mpr hne
        have hbehind := length_valueBehind_le ((c :: text).dropWhile isNameChar)
        obtain ⟨entries, hentries⟩ := ih _ (by omega) (valueBehind ((c :: text).dropWhile isNameChar)).2 rfl
        have hends : ∀ d ∈ ((c :: text).dropWhile isNameChar).head?, isNameChar d = false := by
          intro d hd
          have hnot := List.head?_dropWhile_not isNameChar (c :: text)
          rwa [Option.mem_def.mp hd] at hnot
        have hreads := Reads.name hne (List.all_eq_true.mp List.all_takeWhile) hends hentries
        rw [hsplit] at hreads
        exact ⟨_, hreads⟩

/-- A name has a value if it is one of those that are read. -/
theorem Reads.isSome_get?_iff (h : Reads text entries) :
    ((ofText text).get? name).isSome ↔ name ∈ entries.map (·.1) := by
  rw [h.ofText_eq, isSome_get?_insertAll, get?_nil]
  simp

end Attributes

/-- How the value of an attribute is written, if it is. -/
inductive WrittenValue where
  | omitted
  | quoted (quote : Char) (value : Text)
  | bare (value : Text)

namespace WrittenValue

def text : WrittenValue → Text
  | omitted => []
  | quoted quote value => '=' :: quote :: (value ++ [quote])
  | bare value => '=' :: value

/-- The value that is meant. -/
def meaning : WrittenValue → Text
  | omitted => Attributes.bareName
  | quoted _ value => value
  | bare value => value

/-- A value ends at its quote, and one without quotes at a blank or at the end of the tag. -/
def Fits : WrittenValue → Prop
  | omitted => True
  | quoted quote value => (quote = '"' ∨ quote = '\'') ∧ quote ∉ value
  | bare value => value ≠ [] ∧ ∀ c ∈ value, isBlank c = false ∧ c ∉ "\"'>".toList

instance : DecidablePred Fits
  | omitted => isTrue trivial
  | quoted quote value =>
    inferInstanceAs (Decidable ((quote = '"' ∨ quote = '\'') ∧ quote ∉ value))
  | bare value =>
    inferInstanceAs (Decidable (value ≠ [] ∧ ∀ c ∈ value, isBlank c = false ∧ c ∉ "\"'>".toList))

end WrittenValue

structure WrittenAttribute where
  blanks : Text
  name : Text
  value : WrittenValue
  blanks_ne_nil : blanks ≠ []
  isBlank_blanks : ∀ c ∈ blanks, isBlank c = true
  name_ne_nil : name ≠ []
  name_fits : ∀ c ∈ name, isBlank c = false ∧ c ∉ "\"'=<>/".toList
  value_fits : value.Fits

namespace WrittenAttribute

variable {written : WrittenAttribute}

def text (written : WrittenAttribute) : Text :=
  written.blanks ++ written.name ++ written.value.text

/-- What is to be read. -/
def entry (written : WrittenAttribute) : Text × Text := (written.name, written.value.meaning)

/-- The name has nothing in it but letters and digits of ASCII, colons and hyphens. -/
def HasPlainName (written : WrittenAttribute) : Prop :=
  ∀ c ∈ written.name, c.isAlphanum = true ∨ c = ':' ∨ c = '-'

instance : DecidablePred HasPlainName := fun written =>
  inferInstanceAs (Decidable (∀ c ∈ written.name, c.isAlphanum = true ∨ c = ':' ∨ c = '-'))

theorem HasPlainName.isNameChar (h : written.HasPlainName) :
    ∀ c ∈ written.name, Attributes.isNameChar c = true := by
  intro c hc
  rcases h c hc with hword | rfl | rfl
  · exact Attributes.isNameChar_of_isAlphanum hword
  · decide
  · decide

theorem exists_text_eq (written : WrittenAttribute) :
    ∃ c rest, written.text = c :: rest ∧ isBlank c = true := by
  obtain ⟨c, blanks, hblanks⟩ := List.exists_cons_of_ne_nil written.blanks_ne_nil
  exact ⟨c, _, by rw [text, hblanks]; rfl, written.isBlank_blanks c (by simp [hblanks])⟩

end WrittenAttribute

namespace Attributes

variable {text rest : Text} {entries : List (Text × Text)} {written : WrittenAttribute}
  {attributes : List WrittenAttribute}

theorem Reads.blanks_append {blanks : Text} (hblanks : ∀ c ∈ blanks, isBlank c = true)
    (h : Reads text entries) : Reads (blanks ++ text) entries := by
  induction blanks with
  | nil => exact h
  | cons c blanks ih =>
    obtain ⟨hc, hrest⟩ := List.forall_mem_cons.mp hblanks
    exact .skip (isNameChar_of_isBlank hc) (ih hrest)

theorem isBareChar_of_isBlank {c : Char} (h : isBlank c = true) : isBareChar c = false := by
  simp [isBareChar, h]

/-- A value in quotes is read as what is between them. -/
theorem value?_quoted {quote : Char} {value : Text} (hquote : quote = '"' ∨ quote = '\'')
    (hmem : quote ∉ value) (rest : Text) :
    value? ('=' :: quote :: (value ++ quote :: rest)) = some (value, rest) := by
  have hread : quoted? quote (quote :: (value ++ quote :: rest)) = some (value, rest) :=
    quoted?_eq_some_iff.mpr ⟨hmem, rfl⟩
  rcases hquote with rfl | rfl
  · rw [value?, hread, Option.some_or]
  · rw [value?, hread, quoted?, if_neg (by decide), Option.none_or, Option.some_or]

/-- What begins with no quote is read as a bare value. -/
theorem value?_bare {c : Char} (hdouble : c ≠ '"') (hsingle : c ≠ '\'') (text : Text) :
    value? ('=' :: c :: text) = bare? (c :: text) := by
  rw [value?, quoted?, if_neg hdouble, quoted?, if_neg hsingle, Option.none_or, Option.none_or]

/-- In front of a blank a value is read as it is meant. -/
theorem valueBehind_text {value : WrittenValue} (hfits : value.Fits)
    (hrest : ∀ c ∈ rest.head?, isBlank c = true) :
    valueBehind (value.text ++ rest) = (value.meaning, rest) := by
  cases value with
  | omitted =>
    have hnone : value? rest = none := by
      cases hvalue : value? rest with
      | none => rfl
      | some found =>
        obtain ⟨behind, rfl, -⟩ := exists_of_value? hvalue
        exact absurd (hrest '=' rfl) (by decide)
    rw [WrittenValue.text, List.nil_append, valueBehind, hnone]
    rfl
  | quoted quote value =>
    obtain ⟨hquote, hmem⟩ := hfits
    have hread := value?_quoted hquote hmem rest
    simp [valueBehind, WrittenValue.text, WrittenValue.meaning, hread]
  | bare value =>
    obtain ⟨hne, hchars⟩ := hfits
    obtain ⟨c, value, rfl⟩ := List.exists_cons_of_ne_nil hne
    obtain ⟨hdouble, hsingle, -⟩ : c ≠ '"' ∧ c ≠ '\'' ∧ c ≠ '>' := by
      simpa using (hchars c List.mem_cons_self).2
    have hbare : ∀ d ∈ c :: value, isBareChar d = true := fun d hd => by
      obtain ⟨hblank, hmarks⟩ := hchars d hd
      have hmark : d ≠ '>' := fun h => hmarks (h ▸ by decide)
      simp [isBareChar, hblank, hmark]
    obtain ⟨htake, hdrop⟩ := takeWhile_append_of_head? hbare
      fun d hd => isBareChar_of_isBlank (hrest d hd)
    have hread : value? ('=' :: (c :: value ++ rest)) = some (c :: value, rest) := by
      rw [List.cons_append, value?_bare hdouble hsingle, ← List.cons_append, bare?_eq, htake, hdrop]
      rfl
    rw [List.cons_append] at hread
    simp [valueBehind, WrittenValue.text, WrittenValue.meaning, hread]

/-- In front of a blank an attribute is read, and nothing else of it. -/
theorem Reads.text_append (hname : written.HasPlainName)
    (hrest : ∀ c ∈ rest.head?, isBlank c = true) (h : Reads rest entries) :
    Reads (written.text ++ rest) (written.entry :: entries) := by
  have hbehind := valueBehind_text written.value_fits hrest
  have hends : ∀ c ∈ (written.value.text ++ rest).head?, isNameChar c = false := by
    cases written.value with
    | omitted => exact fun c hc => isNameChar_of_isBlank (hrest c hc)
    | quoted quote value =>
      intro c hc
      obtain rfl := Option.some.inj hc
      decide
    | bare value =>
      intro c hc
      obtain rfl := Option.some.inj hc
      decide
  have hreads : Reads (written.name ++ (written.value.text ++ rest))
      ((written.name, (valueBehind (written.value.text ++ rest)).1) :: entries) :=
    .name written.name_ne_nil hname.isNameChar hends (by rwa [hbehind])
  rw [hbehind] at hreads
  rw [WrittenAttribute.text, List.append_assoc, List.append_assoc]
  exact hreads.blanks_append written.isBlank_blanks

theorem reads_flatMap_text (hnames : ∀ written ∈ attributes, written.HasPlainName)
    (hrest : ∀ c ∈ rest.head?, isBlank c = true) (h : Reads rest entries) :
    Reads (attributes.flatMap (·.text) ++ rest) (attributes.map (·.entry) ++ entries) := by
  induction attributes with
  | nil => exact h
  | cons written attributes ih =>
    obtain ⟨hname, hnames⟩ := List.forall_mem_cons.mp hnames
    rw [List.flatMap_cons, List.append_assoc]
    refine Reads.text_append hname ?_ (ih hnames)
    cases attributes with
    | nil => exact hrest
    | cons next attributes =>
      obtain ⟨c, behind, htext, hc⟩ := next.exists_text_eq
      simpa [htext] using hc

/-- Attributes with different names are read exactly as they are written, whatever their values hold. -/
theorem ofText_written (hnames : ∀ written ∈ attributes, written.HasPlainName)
    (hdistinct : (attributes.map (·.name)).Nodup) :
    ofText (attributes.flatMap (·.text)) =
        attributes.map (fun written => (written.name, written.value.meaning)) ∧
      ∀ name value, (ofText (attributes.flatMap (·.text))).get? name = some value ↔
        ∃ written ∈ attributes, written.name = name ∧ written.value.meaning = value := by
  have hreads : Reads (attributes.flatMap (·.text) ++ []) (attributes.map (·.entry) ++ []) :=
    reads_flatMap_text hnames nofun .nil
  rw [List.append_nil, List.append_nil] at hreads
  have hentries : ofText (attributes.flatMap (·.text)) = attributes.map (·.entry) := by
    rw [hreads.ofText_eq]
    refine insertAll_of_nodup ?_
    rw [List.nil_append, List.map_map]
    exact hdistinct
  refine ⟨hentries, fun name value => ?_⟩
  rw [hentries, get?_eq_some_iff (by rwa [List.map_map])]
  simp [WrittenAttribute.entry]

def nestedAttributes : List WrittenAttribute := [
  ⟨"\n\t".toList, "lang".toList, .quoted '"' "x lang='y' >".toList, by decide, by decide, by decide,
    by decide, by decide⟩,
  ⟨" ".toList, "defer".toList, .omitted, by decide, by decide, by decide, by decide, by decide⟩,
  ⟨"  ".toList, "on:click".toList, .quoted '\'' "lang=\"z\"\n defer".toList, by decide, by decide,
    by decide, by decide, by decide⟩,
  ⟨" ".toList, "data-x".toList, .bare "=lang=ts".toList, by decide, by decide, by decide, by decide,
    by decide⟩]

theorem ofText_written_nestedAttributes :
    ofText "\n\tlang=\"x lang='y' >\" defer  on:click='lang=\"z\"\n defer' data-x==lang=ts".toList =
      [("lang".toList, "x lang='y' >".toList), ("defer".toList, "true".toList),
        ("on:click".toList, "lang=\"z\"\n defer".toList), ("data-x".toList, "=lang=ts".toList)] := by
  have hnames : ∀ written ∈ nestedAttributes, written.HasPlainName := by decide
  exact (ofText_written hnames (by decide)).1

end Attributes

end ComponentBundle.Markup
