import ComponentBundle.Proofs.Markup.Assembled
import ComponentBundle.Proofs.Markup.StartTag

/-!
# Pages of start tags

In a page of texts and start tags the search for images judges each tag by itself. So the warnings about
it are exactly one for each tag of an image without a description just where every tag is judged right,
and they are where no tag is opened in another one, no name goes on with a hyphen behind that of an image,
and no attribute of an image ends its tag.
-/
namespace ComponentBundle.Markup

/-- What a page consists of: a text that opens no tag, or a start tag. -/
inductive Node where
  | plain (text : Text) (opens : '<' ∉ text)
  | tag (tag : StartTag)

def Node.text : Node → Text
  | .plain text _ => text
  | .tag found => found.text

/-- The page that consists of the nodes. -/
def page (nodes : List Node) : Text := nodes.flatMap Node.text

/-- The tags of a page, each with the text of the page before it. -/
def tagsAfter (before : Text) : List Node → List (Text × StartTag)
  | [] => []
  | .plain text _ :: nodes => tagsAfter (before ++ text) nodes
  | .tag tag :: nodes => (before, tag) :: tagsAfter (before ++ tag.text) nodes

def undescribed (before : Text) (nodes : List Node) : List (Text × StartTag) :=
  (tagsAfter before nodes).filter fun entry => entry.2.IsUndescribed

/-- The warnings there should be about a page: one for each image without a description, in order, at the
position of its tag. -/
def dueWarnings (file : Path) (nodes : List Node) : List Diagnostic :=
  (undescribed [] nodes).map fun entry =>
    (Diagnostic.warning (.after entry.1) missingAlt).inFile file

variable {ranges : List (Nat × Nat)} {before : Text} {nodes : List Node} {entry : Text × StartTag}

theorem page_cons (node : Node) (nodes : List Node) : page (node :: nodes) = node.text ++ page nodes :=
  rfl

theorem prefix_of_mem_tagsAfter (h : entry ∈ tagsAfter before nodes) :
    before <+: entry.1 ∧ entry.1 <+: before ++ page nodes := by
  induction nodes generalizing before with
  | nil => cases h
  | cons node nodes ih =>
    rw [page_cons, ← List.append_assoc]
    have hbehind (h : entry ∈ tagsAfter (before ++ node.text) nodes) :=
      (ih h).imp_left (List.prefix_append before node.text).trans
    cases node with
    | plain text _ => exact hbehind h
    | tag tag =>
      rcases List.mem_cons.mp h with rfl | hmem
      · exact ⟨List.prefix_rfl, (List.prefix_append ..).trans (List.prefix_append ..)⟩
      · exact hbehind hmem

theorem mem_of_mem_tagsAfter (h : entry ∈ tagsAfter before nodes) :
    .tag entry.2 ∈ nodes := by
  induction nodes generalizing before with
  | nil => cases h
  | cons node nodes ih =>
    cases node with
    | plain text _ => exact List.mem_cons_of_mem _ (ih h)
    | tag tag =>
      rcases List.mem_cons.mp h with rfl | hmem
      · exact List.mem_cons_self
      · exact List.mem_cons_of_mem _ (ih hmem)

theorem append_eq_append_iff_of_lt {n : Nat} {front front' back back' : List Nat}
    (hfront : ∀ m ∈ front, m < n) (hfront' : ∀ m ∈ front', m < n) (hback : ∀ m ∈ back, n ≤ m)
    (hback' : ∀ m ∈ back', n ≤ m) : front ++ back = front' ++ back' ↔ front = front' ∧ back = back' := by
  have hcut {front back : List Nat} (hfront : ∀ m ∈ front, m < n) (hback : ∀ m ∈ back, n ≤ m) :
      (front ++ back).filter (· < n) = front := by
    rw [List.filter_append, List.filter_eq_self.mpr (by simpa using hfront),
      List.filter_eq_nil_iff.mpr (by simpa using hback), List.append_nil]
  constructor
  · intro h
    obtain rfl : front = front' := by rw [← hcut hfront hback, h, hcut hfront' hback']
    exact ⟨rfl, List.append_cancel_left h⟩
  · rintro ⟨rfl, rfl⟩
    rfl

theorem images_text_append (tag : StartTag) (place : Nat) (rest : Text) :
    images ranges place (tag.text ++ rest) =
      images ranges place tag.text ++ images ranges (place + tag.text.length) rest := by
  have hlast : ∀ c ∈ tag.text.getLast?, c = '>' := by
    rw [StartTag.text, ← List.append_assoc, List.getLast?_concat]
    exact fun c hc => (Option.some.inj hc).symm
  exact ((shows_images ..).append hlast (shows_images ..)).images_eq

theorem le_of_mem_undescribed {m : Nat}
    (h : m ∈ (undescribed before nodes).map (·.1.length)) : before.length ≤ m := by
  obtain ⟨entry, hentry, rfl⟩ := List.mem_map.mp h
  exact (prefix_of_mem_tagsAfter (List.mem_filter.mp hentry).1).1.length_le

/-- The images of a page are those without a description exactly if each tag is judged right. -/
theorem images_page_eq_iff : images ranges before.length (page nodes) =
      (undescribed before nodes).map (·.1.length) ↔
    ∀ entry ∈ tagsAfter before nodes, entry.2.IsJudged ranges entry.1.length := by
  -- What is found in a tag lies within it, so two lists of places are equal exactly if they are tag by tag.
  induction nodes generalizing before with
  | nil => exact iff_of_true Shows.nil.images_eq nofun
  | cons node nodes ih =>
    cases node with
    | plain text opens =>
      have hnext := @ih (before ++ text)
      have hfound : images ranges before.length (text ++ page nodes) =
          images ranges (before.length + text.length) (page nodes) :=
        (Shows.text_append opens (shows_images ..)).images_eq
      rw [List.length_append] at hnext
      rw [page_cons, Node.text, hfound]
      exact hnext
    | tag tag =>
      have hnext := @ih (before ++ tag.text)
      have hdue : (undescribed before (.tag tag :: nodes)).map (·.1.length) =
          (if tag.IsUndescribed then [before.length] else []) ++
            (undescribed (before ++ tag.text) nodes).map (·.1.length) := by
        rw [undescribed, tagsAfter, List.filter_cons]
        split <;> simp_all [undescribed]
      rw [List.length_append] at hnext
      rw [page_cons, Node.text, images_text_append, hdue, tagsAfter, List.forall_mem_cons,
        ← tag.images_text_eq_iff, ← hnext]
      refine append_eq_append_iff_of_lt (n := before.length + tag.text.length) ?_ ?_ ?_ ?_
      · exact fun m hm => (bounds_of_mem_images hm).2
      · have hpos : 0 < tag.text.length := by simp [StartTag.text]
        intro m hm
        split at hm
        · rw [List.mem_singleton.mp hm]
          omega
        · cases hm
      · exact fun m hm => (bounds_of_mem_images hm).1
      · intro m hm
        have hle := le_of_mem_undescribed hm
        rwa [List.length_append] at hle

/-- The places of the scripts of a component. -/
def scriptRanges (source : Text) : List (Nat × Nat) :=
  blockRanges (blocksAfter [] (pieces .script source))

theorem eq_of_map_eq_map {α β : Type} {f : α → β} {first second : List α}
    (hf : ∀ a ∈ first, ∀ b ∈ second, f a = f b → a = b) (h : first.map f = second.map f) :
    first = second := by
  have hlength : first.length = second.length := by simpa using congrArg List.length h
  refine List.ext_getElem hlength fun n hn hn' => ?_
  have hget := List.getElem_of_eq h (by simpa using hn)
  rw [List.getElem_map, List.getElem_map] at hget
  exact hf _ (List.getElem_mem hn) _ (List.getElem_mem hn') hget

/-- The warnings about a page are the due ones exactly if the images found are those without a description,
since a position tells the place. -/
theorem imageWarnings_page_eq_iff (file : Path) : imageWarnings (page nodes) ranges file =
      dueWarnings file nodes ↔
    images ranges 0 (page nodes) = (undescribed [] nodes).map (·.1.length) := by
  have hbegins : ∀ entry ∈ undescribed [] nodes, entry.1 <+: page nodes := fun entry hentry =>
    (prefix_of_mem_tagsAfter (List.mem_filter.mp hentry).1).2
  have hdue : dueWarnings file nodes = ((undescribed [] nodes).map (·.1.length)).map fun place =>
      (Diagnostic.warning (.after ((page nodes).take place)) missingAlt).inFile file := by
    rw [dueWarnings, List.map_map]
    refine List.map_congr_left fun entry hentry => ?_
    rw [Function.comp_apply, ← List.prefix_iff_eq_take.mp (hbegins entry hentry)]
  rw [hdue, imageWarnings, ← images]
  refine ⟨eq_of_map_eq_map ?_, congrArg _⟩
  intro place hplace other hother heq
  have hafter : Position.after ((page nodes).take place) = .after ((page nodes).take other) :=
    congrArg Diagnostic.start heq
  have htake := Position.eq_of_after_eq (List.take_prefix ..) (List.take_prefix ..) hafter
  obtain ⟨entry, hentry, rfl⟩ := List.mem_map.mp hother
  have hle := (bounds_of_mem_images hplace).2
  have hle' := (hbegins entry hentry).length_le
  have hlengths := congrArg List.length htake
  rw [List.length_take, List.length_take] at hlengths
  omega

theorem not_opens_page {tag : Tag} (h : ∀ t, .tag t ∈ nodes → '<' ∉ t.inside) :
    ¬Opens tag.name (page nodes) := by
  induction nodes with
  | nil => exact not_opens_nil
  | cons node nodes ih =>
    have hrest := ih fun t ht => h t (List.mem_cons_of_mem _ ht)
    rw [page_cons]
    cases node with
    | plain text opens => rwa [Node.text, opens_append_iff_of_bracket_notMem opens]
    | tag t =>
      have hinside : '<' ∉ t.name ++ (t.inside ++ ['>']) := by
        simp [t.bracket_notMem_name, h t List.mem_cons_self]
      have hhere : (afterOpening? tag.name (t.text ++ page nodes)).isSome = false :=
        t.not_opens_text_append (page nodes)
      rw [StartTag.text, List.cons_append, List.cons_append] at hhere
      rw [Node.text, StartTag.text, List.cons_append, List.cons_append, opens_cons_iff, hhere,
        opens_append_iff_of_bracket_notMem hinside]
      simpa using hrest

theorem foldr_consOutside (c : Char) (text : Text) :
    (c :: text).foldr consOutside [] = [.outside (c :: text)] := by
  induction text generalizing c with
  | nil => rfl
  | cons d text ih => rw [List.foldr_cons, ih, consOutside]

/-- A page in which no script or style opens is accepted, and has no scripts. -/
theorem exists_compile_page (file : Path) (h : ∀ tag : Tag, ¬Opens tag.name (page nodes)) :
    scriptRanges (page nodes) = [] ∧ ∃ output, compile (page nodes) file = .ok output := by
  have hfits : ∀ part ∈ [Part.markup (page nodes)], part.Fits := by simp [Part.Fits]
  have happart (tag : Tag) : Apart tag [.markup (page nodes)] := by
    cases hpage : page nodes with
    | nil => exact nofun
    | cons c text =>
      have hstretches : stretches (piecesOf tag [.markup (c :: text)]) = [c :: text] :=
        congrArg stretches (foldr_consOutside c text)
      rw [Apart, hstretches, ← hpage]
      simpa using h tag
  have hassemble : assemble [.markup (page nodes)] = page nodes := List.append_nil _
  have hpieces := ((pieces_assemble_iff hfits).mpr (happart .script)).1
  have hcompile := exists_compile_assemble file hfits (by simp [bodies, Part.block?]) happart
  rw [hassemble] at hpieces hcompile
  refine ⟨?_, hcompile⟩
  have hblocks : (blocksAfter [] (pieces .script (page nodes))).map (·.2) = [] := by
    rw [hpieces, map_snd_blocksAfter, blocks_piecesOf]
    rfl
  rw [scriptRanges, List.map_eq_nil_iff.mp hblocks]
  rfl

/-- A page is accepted with the due warnings and no others exactly if it is accepted and each of its tags
is judged right. That is so where all tags are plain. -/
theorem warnings_page_iff (file : Path) (nodes : List Node) :
    ((∃ output, compile (page nodes) file = .ok output ∧ output.warnings = dueWarnings file nodes) ↔
        (∃ output, compile (page nodes) file = .ok output) ∧
          ∀ entry ∈ tagsAfter [] nodes,
            entry.2.IsJudged (scriptRanges (page nodes)) entry.1.length) ∧
      ((∀ t, .tag t ∈ nodes → t.IsPlain) →
        ∃ output, compile (page nodes) file = .ok output ∧
          output.warnings = dueWarnings file nodes) := by
  have hjudged {output : MarkupOutput} (hcompile : compile (page nodes) file = .ok output) :
      output.warnings = dueWarnings file nodes ↔
        ∀ entry ∈ tagsAfter [] nodes,
          entry.2.IsJudged (scriptRanges (page nodes)) entry.1.length := by
    rw [warnings_compile hcompile, imageWarnings_page_eq_iff, ← images_page_eq_iff]
    rfl
  constructor
  · constructor
    · rintro ⟨output, hcompile, hwarnings⟩
      exact ⟨⟨output, hcompile⟩, (hjudged hcompile).mp hwarnings⟩
    · rintro ⟨⟨output, hcompile⟩, hall⟩
      exact ⟨output, hcompile, (hjudged hcompile).mpr hall⟩
  · intro hplain
    obtain ⟨hranges, output, hcompile⟩ :=
      exists_compile_page file fun tag => not_opens_page fun t ht => (hplain t ht).opens
    refine ⟨output, hcompile, (hjudged hcompile).mpr fun entry hentry => ?_⟩
    rw [hranges]
    exact (hplain _ (mem_of_mem_tagsAfter hentry)).isJudged rfl

def quotedAttribute (name value : Text) (name_ne_nil : name ≠ [])
    (name_fits : ∀ c ∈ name, Text.isBlank c = false ∧ c ∉ "\"'=<>/".toList) (closed : '"' ∉ value) :
    WrittenAttribute :=
  ⟨"\t".toList, name, .quoted '"' value, by decide, by decide, name_ne_nil, name_fits, .inl rfl, closed⟩

def titleAttribute : WrittenAttribute :=
  quotedAttribute "title".toList "alt=c".toList (by decide) (by decide) (by decide)

def markAttribute : WrittenAttribute :=
  quotedAttribute "title".toList "a > b".toList (by decide) (by decide) (by decide)

def altAttribute : WrittenAttribute :=
  quotedAttribute "alt".toList [] (by decide) (by decide) (by decide)

def imageTag (attributes : List WrittenAttribute) : StartTag :=
  ⟨"IMG".toList, attributes, "\t ".toList, by decide, by decide, fun tag => by cases tag <;> decide,
    by decide⟩

def zoomTag (attributes : List WrittenAttribute) : StartTag :=
  ⟨"img-zoom".toList, attributes, [], by decide, by decide, fun tag => by cases tag <;> decide,
    by decide⟩

def paragraphTag (attributes : List WrittenAttribute) : StartTag :=
  ⟨"p".toList, attributes, [], by decide, by decide, fun tag => by cases tag <;> decide, by decide⟩

def plainNodes : List Node := [
  .plain "a > b\n".toList (by decide),
  .tag (imageTag [titleAttribute]),
  .tag (paragraphTag [titleAttribute, markAttribute]),
  .plain "c".toList (by decide),
  .tag (imageTag [altAttribute])]

theorem warnings_page_iff_plainNodes : ∃ output,
    compile "a > b\n<IMG\ttitle=\"alt=c\"\t ><p\ttitle=\"alt=c\"\ttitle=\"a > b\">c<IMG\talt=\"\"\t >".toList
        (.ofString "/App.svelte") = .ok output ∧
      output.warnings =
        [(Diagnostic.warning ⟨2, 0⟩ missingAlt).inFile (.ofString "/App.svelte")] := by
  have hplain : ∀ t, .tag t ∈ plainNodes → t.IsPlain := by
    intro t ht
    simp only [plainNodes, List.mem_cons, Node.tag.injEq, reduceCtorEq, List.not_mem_nil, or_false,
      false_or] at ht
    rcases ht with rfl | rfl | rfl
    · exact ⟨by decide, by decide, fun _ => ⟨by decide, by decide⟩⟩
    · exact ⟨by decide, by decide, fun himage => absurd himage (by decide)⟩
    · exact ⟨by decide, by decide, fun _ => ⟨by decide, by decide⟩⟩
  exact (warnings_page_iff (.ofString "/App.svelte") plainNodes).2 hplain

/-- A tag that is no image, and an image with a description behind a value that ends the tag. -/
def misjudgedNodes : List Node :=
  [.tag (zoomTag []), .tag (imageTag [markAttribute, altAttribute])]

/-- Not every page is accepted with the due warnings, though all values in it are between quotes. -/
theorem warnings_page_differ :
    ¬∀ nodes file, (∀ t, .tag t ∈ nodes → ∀ written ∈ t.attributes,
        ∃ quote value, written.value = .quoted quote value) →
      ∃ output, compile (page nodes) file = .ok output ∧ output.warnings = dueWarnings file nodes := by
  intro hall
  have hquoted : ∀ t, .tag t ∈ misjudgedNodes → ∀ written ∈ t.attributes,
      ∃ quote value, written.value = .quoted quote value := by
    intro t ht written hwritten
    simp only [misjudgedNodes, List.mem_cons, Node.tag.injEq, List.not_mem_nil, or_false] at ht
    rcases ht with rfl | rfl
    · cases hwritten
    · rcases List.mem_pair.mp hwritten with rfl | rfl
      · exact ⟨_, _, rfl⟩
      · exact ⟨_, _, rfl⟩
  have hwarnings : imageWarnings (page misjudgedNodes) (scriptRanges (page misjudgedNodes))
      (.ofString "/App.svelte") ≠ dueWarnings (.ofString "/App.svelte") misjudgedNodes := by
    decide +kernel
  obtain ⟨output, hcompile, hdue⟩ := hall misjudgedNodes (.ofString "/App.svelte") hquoted
  exact hwarnings ((warnings_compile hcompile).symm.trans hdue)

end ComponentBundle.Markup
