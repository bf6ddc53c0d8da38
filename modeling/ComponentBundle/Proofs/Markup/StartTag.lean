import ComponentBundle.Proofs.Markup.Image

/-!
# Start tags

A start tag is a name with attributes. The search for images takes it as that of an image if it begins with
that name and goes on with no letter or digit, and then reads its text up to the first mark that ends a tag,
wherever that stands; in what is left, and in any other tag, it goes on looking for images.
-/
namespace ComponentBundle.Markup

open Text (foldCase)

structure StartTag where
  name : Text
  attributes : List WrittenAttribute
  blanks : Text
  name_ne_nil : name ≠ []
  name_fits : ∀ c ∈ name, Text.isWord c = true ∨ c = '-'
  name_apart : ∀ tag : Tag, ¬tag.name <+: name.map foldCase
  isBlank_blanks : ∀ c ∈ blanks, Text.isBlank c = true

namespace StartTag

variable {ranges : List (Nat × Nat)} {place m : Nat} {name after rest : Text} {c : Char}
  {t : StartTag}

/-- What stands between the name and the end of the tag. -/
def inside (t : StartTag) : Text := t.attributes.flatMap (·.text) ++ t.blanks

def text (t : StartTag) : Text := '<' :: t.name ++ (t.inside ++ ['>'])

/-- The tag is that of an image, and none of its attributes is a description. -/
def IsUndescribed (t : StartTag) : Prop :=
  t.name.map foldCase = imageName ∧ ∀ written ∈ t.attributes, written.name ≠ "alt".toList

instance : DecidablePred IsUndescribed := fun t =>
  inferInstanceAs (Decidable (t.name.map foldCase = imageName ∧
    ∀ written ∈ t.attributes, written.name ≠ "alt".toList))

/-- The tag is taken as that of an image: its name is that one, up to case, or goes on with a hyphen. -/
def OpensImage (t : StartTag) : Prop :=
  t.name.map foldCase = imageName ∨ imageName ++ ['-'] <+: t.name.map foldCase

instance : DecidablePred OpensImage := fun t =>
  inferInstanceAs (Decidable (t.name.map foldCase = imageName ∨
    imageName ++ ['-'] <+: t.name.map foldCase))

def behindName (t : StartTag) : Text := t.name.drop imageName.length ++ (t.inside ++ ['>'])

def readFront (t : StartTag) : Text := t.behindName.takeWhile (· ≠ '>')

/-- The end of the tag in which the search goes on. -/
def readBehind (t : StartTag) : Text :=
  if t.OpensImage then (t.behindName.dropWhile (· ≠ '>')).tail else t.inside ++ ['>']

theorem bracket_notMem_name (t : StartTag) : '<' ∉ t.name := fun h =>
  absurd (t.name_fits '<' h) (by decide)

/-- Behind the name there is a blank, or the end of the tag. -/
theorem exists_inside_eq (t : StartTag) :
    ∃ c back, t.inside ++ ['>'] = c :: back ∧ (Text.isBlank c = true ∨ c = '>') := by
  cases hattributes : t.attributes with
  | cons written attributes =>
    obtain ⟨c, back, htext, hc⟩ := written.exists_text_eq
    exact ⟨c, _, by rw [inside, hattributes, List.flatMap_cons, htext]; rfl, .inl hc⟩
  | nil =>
    cases hblanks : t.blanks with
    | cons c blanks =>
      have hc := t.isBlank_blanks c (by simp [hblanks])
      exact ⟨c, _, by rw [inside, hattributes, hblanks]; rfl, .inl hc⟩
    | nil => exact ⟨'>', [], by rw [inside, hattributes, hblanks]; rfl, .inr rfl⟩

/-- A name opens at the tag if that of the tag begins with it and goes on with no word. -/
theorem afterOpening?_text_append_iff (t : StartTag) (hname : name.all Text.isWord = true)
    (rest : Text) : afterOpening? name (t.text ++ rest) = some after ↔
      ∃ letters more, t.name = letters ++ more ∧ letters.map foldCase = name ∧
        (∀ c ∈ more.head?, c = '-') ∧ after = more ++ (t.inside ++ ['>']) ++ rest := by
  obtain ⟨d, back, hinside, hd⟩ := t.exists_inside_eq
  obtain ⟨hnot, hword⟩ : foldCase d ∉ name ∧ Text.isWord d = false := by
    rcases hd with hblank | rfl
    · exact ⟨blank_notMem_word hblank hname, Text.isWord_eq_false_of_isBlank hblank⟩
    · exact ⟨fun hmem => absurd (List.all_eq_true.mp hname _ hmem) (by decide), by decide⟩
  rw [afterOpening?_eq_some_iff]
  constructor
  · rintro ⟨front, hsplit, hfront, hend⟩
    have hbegins : front <+: '<' :: t.name := by
      have hjoint : front ++ after = ('<' :: t.name) ++ d :: (back ++ rest) := by
        rw [← hsplit, text, hinside, List.append_assoc]
        rfl
      exact Text.prefix_of_map_foldCase hfront hnot hjoint (List.cons_ne_nil '<' t.name)
    obtain ⟨letters, rfl⟩ := exists_of_map_foldCase hfront
    obtain ⟨more, hmore⟩ := (List.cons_prefix_cons.mp hbegins).2
    have hafter : after = more ++ (t.inside ++ ['>']) ++ rest := by
      rw [text, ← hmore] at hsplit
      simpa using hsplit.symm
    refine ⟨letters, more, hmore.symm, (List.cons.inj hfront).2, fun c hc => ?_, hafter⟩
    by_contra hmark
    obtain ⟨more, rfl⟩ : ∃ tail, more = c :: tail := List.head?_eq_some_iff.mp hc
    have hmem : c ∈ t.name := hmore ▸ List.mem_append_right letters List.mem_cons_self
    rw [hafter] at hend
    simp [Text.atWordEnd, (t.name_fits c hmem).resolve_right hmark] at hend
  · rintro ⟨letters, more, hsplit, hletters, hmore, rfl⟩
    refine ⟨'<' :: letters, by simp [text, hsplit], congrArg ('<' :: ·) hletters, ?_⟩
    cases more with
    | nil => simp [hinside, Text.atWordEnd, hword]
    | cons c more =>
      obtain rfl := hmore c rfl
      exact (by decide : Text.atWordEnd ['-'] = true)

theorem not_opens_text_append {tag : Tag} (t : StartTag) (rest : Text) :
    (afterOpening? tag.name (t.text ++ rest)).isSome = false := by
  rw [Option.isSome_eq_false_iff, Option.isNone_iff_eq_none, Option.eq_none_iff_forall_not_mem]
  intro after hafter
  obtain ⟨letters, more, hsplit, hletters, -⟩ :=
    (t.afterOpening?_text_append_iff (all_isWord_name tag) rest).mp hafter
  exact t.name_apart tag ⟨more.map foldCase, by rw [hsplit, List.map_append, hletters]⟩

theorem opensImage_iff (t : StartTag) : t.OpensImage ↔
    ∃ letters more, t.name = letters ++ more ∧ letters.map foldCase = imageName ∧
      ∀ c ∈ more.head?, c = '-' := by
  constructor
  · rintro (hname | ⟨more, hmore⟩)
    · exact ⟨t.name, [], (List.append_nil _).symm, hname, nofun⟩
    · rw [List.append_assoc] at hmore
      obtain ⟨letters, behind, hsplit, hletters, hbehind⟩ := List.map_eq_append_iff.mp hmore.symm
      obtain ⟨c, more, rfl, hc, -⟩ := List.map_eq_cons_iff.mp hbehind
      obtain rfl := Text.eq_of_foldCase_eq hc (by decide)
      exact ⟨letters, '-' :: more, hsplit, hletters, fun c hc => (Option.some.inj hc).symm⟩
  · rintro ⟨letters, more, hsplit, hletters, hmore⟩
    cases more with
    | nil => exact .inl (by rw [hsplit, List.append_nil, hletters])
    | cons c more =>
      obtain rfl := hmore c rfl
      exact .inr ⟨more.map foldCase, by simp [hsplit, hletters, (by decide : foldCase '-' = '-')]⟩

theorem afterOpening?_text (t : StartTag) :
    afterOpening? imageName t.text = if t.OpensImage then some t.behindName else none := by
  have hiff {after : Text} : afterOpening? imageName (t.text ++ []) = some after ↔ _ :=
    t.afterOpening?_text_append_iff (by decide) []
  simp only [List.append_nil] at hiff
  split
  · rename_i hopens
    obtain ⟨letters, more, hsplit, hletters, hmore⟩ := t.opensImage_iff.mp hopens
    refine hiff.mpr ⟨letters, more, hsplit, hletters, hmore, ?_⟩
    rw [behindName, hsplit, List.drop_left' (Text.length_eq_of_map_foldCase hletters)]
  · rename_i hnot
    rw [Option.eq_none_iff_forall_not_mem]
    intro after hafter
    obtain ⟨letters, more, hsplit, hletters, hmore, -⟩ := hiff.mp hafter
    exact hnot (t.opensImage_iff.mpr ⟨letters, more, hsplit, hletters, hmore⟩)

theorem exists_behindName_eq (t : StartTag) : ∃ behind, '>' ∉ t.readFront ∧
    t.behindName = t.readFront ++ '>' :: behind ∧
      (t.behindName.dropWhile (· ≠ '>')).tail = behind := by
  have hmem : '>' ∈ t.behindName := by simp [behindName]
  obtain ⟨front, behind, hsplit, hfront⟩ := List.eq_append_cons_of_mem hmem
  have htake : t.readFront = front := by rw [readFront, hsplit, Text.takeWhile_ne_append hfront]
  rw [htake]
  exact ⟨behind, hfront, hsplit, by rw [hsplit, Text.dropWhile_ne_append hfront, List.tail_cons]⟩

/-- The place in the page where the end of the tag begins in which the search goes on. -/
def placeBehind (t : StartTag) (place : Nat) : Nat := place + (t.text.length - t.readBehind.length)

def IsReported (ranges : List (Nat × Nat)) (place : Nat) (t : StartTag) : Prop :=
  t.OpensImage ∧ isInside ranges place = false ∧ ¬Describes t.readFront

instance : Decidable (t.IsReported ranges place) :=
  inferInstanceAs (Decidable (t.OpensImage ∧ isInside ranges place = false ∧ ¬Describes t.readFront))

theorem images_text (ranges : List (Nat × Nat)) (place : Nat) (t : StartTag) :
    images ranges place t.text = (if t.IsReported ranges place then [place] else []) ++
      images ranges (t.placeBehind place) t.readBehind := by
  have hopens := t.afterOpening?_text
  by_cases himage : t.OpensImage
  · obtain ⟨behind, hfront, hsplit, hbehind⟩ := t.exists_behindName_eq
    rw [if_pos himage, hsplit] at hopens
    have hread : t.readBehind = behind := by rw [readBehind, if_pos himage, hbehind]
    have hplace : t.placeBehind place = place + 5 + t.readFront.length := by
      obtain ⟨opening, htext, hlength, -⟩ := exists_eq_append_of_opens hopens
      have hlengths := congrArg List.length htext
      simp only [List.length_append, List.length_cons] at hlengths
      rw [placeBehind, hread]
      omega
    have hreported : reported ranges place t.readFront =
        if t.IsReported ranges place then [place] else [] := by
      simp only [reported, IsReported, himage, true_and, ← Bool.not_eq_true, ← not_or, ite_not]
    rw [← hreported, hplace, hread]
    exact (Shows.image hopens hfront (shows_images ..)).images_eq
  · rw [if_neg himage] at hopens
    have hread : t.readBehind = t.inside ++ ['>'] := by rw [readBehind, if_neg himage]
    have hplace : t.placeBehind place = place + 1 + t.name.length := by
      rw [placeBehind, hread, text, List.length_append, Nat.add_sub_cancel, List.length_cons]
      omega
    rw [if_neg fun hreported => himage hreported.1, hplace, hread, List.nil_append]
    exact (Shows.other hopens (.text_append t.bracket_notMem_name (shows_images ..))).images_eq

theorem readBehind_suffix (t : StartTag) : t.readBehind <:+ t.name ++ (t.inside ++ ['>']) := by
  rw [readBehind]
  split
  · have hname : t.behindName <:+ t.name ++ (t.inside ++ ['>']) :=
      ⟨t.name.take imageName.length, by rw [behindName, ← List.append_assoc, List.take_append_drop]⟩
    exact ((List.tail_suffix _).trans (List.dropWhile_suffix _)).trans hname
  · exact List.suffix_append ..

theorem lt_placeBehind (t : StartTag) (place : Nat) : place < t.placeBehind place := by
  have hle := t.readBehind_suffix.length_le
  rw [List.length_append] at hle
  rw [placeBehind, text, List.length_append, List.length_cons]
  omega

/-- What is said about a tag at a place is right: it is reported just if it is one of an image without a
description, and nothing is reported behind the mark at which the search goes on in it. -/
structure IsJudged (ranges : List (Nat × Nat)) (place : Nat) (t : StartTag) : Prop where
  report : t.IsReported ranges place ↔ t.IsUndescribed
  rest : Shows ranges (t.placeBehind place) t.readBehind []

theorem images_text_eq_iff (t : StartTag) :
    images ranges place t.text = (if t.IsUndescribed then [place] else []) ↔
      t.IsJudged ranges place := by
  have hbehind : place ∉ images ranges (t.placeBehind place) t.readBehind := fun hmem =>
    absurd (bounds_of_mem_images hmem).1 (Nat.not_le.mpr (t.lt_placeBehind place))
  rw [images_text]
  constructor
  · intro h
    have hreport : t.IsReported ranges place ↔ t.IsUndescribed := by
      have hmem := congrArg (place ∈ ·) h
      simpa [hbehind] using hmem
    simp only [hreport, List.append_right_eq_self] at h
    exact ⟨hreport, h ▸ shows_images ..⟩
  · intro h
    simp only [h.report, h.rest.images_eq, List.append_nil]

theorem isJudged_iff_of_notMem (h : '<' ∉ t.inside) :
    t.IsJudged ranges place ↔ (t.IsReported ranges place ↔ t.IsUndescribed) := by
  have hbehind : '<' ∉ t.readBehind := fun hmem => by
    have hmem := t.readBehind_suffix.mem hmem
    simp [t.bracket_notMem_name, h] at hmem
  have hrest : Shows ranges (t.placeBehind place) (t.readBehind ++ []) [] := .text_append hbehind .nil
  rw [List.append_nil] at hrest
  exact ⟨fun h => h.report, fun h => ⟨h, hrest⟩⟩

theorem describes_readFront_iff (hname : t.name.map foldCase = imageName) (hmark : '>' ∉ t.inside)
    (hnames : ∀ written ∈ t.attributes, written.HasPlainName) :
    Describes t.readFront ↔ ∃ written ∈ t.attributes, written.name = "alt".toList := by
  have hfront : t.readFront = t.inside := by
    rw [readFront, behindName, List.drop_of_length_le (Text.length_eq_of_map_foldCase hname).le,
      List.nil_append, Text.takeWhile_ne_append hmark]
  have hblanks : Attributes.Reads (t.blanks ++ []) [] := .blanks_append t.isBlank_blanks .nil
  rw [List.append_nil] at hblanks
  have hreads := Attributes.reads_flatMap_text hnames
    (fun c hc => t.isBlank_blanks c (List.mem_of_mem_head? hc)) hblanks
  rw [hfront, Describes, inside, hreads.isSome_get?_iff]
  simp [WrittenAttribute.entry]

/-- The name of the tag does not go on with a hyphen behind that of an image, no other tag is opened in it,
and if it is one of an image, then no value ends it and the names of its attributes are plain. -/
structure IsPlain (t : StartTag) : Prop where
  name : ¬imageName ++ ['-'] <+: t.name.map foldCase
  opens : '<' ∉ t.inside
  image : t.name.map foldCase = imageName →
    '>' ∉ t.inside ∧ ∀ written ∈ t.attributes, written.HasPlainName

theorem IsPlain.isJudged (h : t.IsPlain) (houtside : isInside ranges place = false) :
    t.IsJudged ranges place := by
  rw [isJudged_iff_of_notMem h.opens, IsReported, OpensImage, or_iff_left h.name, IsUndescribed]
  refine and_congr_right fun hname => ?_
  obtain ⟨hmark, hnames⟩ := h.image hname
  rw [describes_readFront_iff hname hmark hnames]
  simp [houtside]

end StartTag

end ComponentBundle.Markup
