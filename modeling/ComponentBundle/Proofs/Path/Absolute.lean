import ComponentBundle.Proofs.Path.NormalForm
import Mathlib.Data.List.Forall2

/-!
# Absolute paths and the directories above them

An absolute path has the components behind its root, whatever slashes and dots it is spelled with. Its
parent is absolute and has one of them less, a path below it has those of the name in addition, and
its normal form has what is left when the steps up are taken out. If there are none, the normal form has
the same components and takes no more bytes.
-/
namespace ComponentBundle.Path

variable {p q directory : Path}

/-- A slash separates components. -/
theorem inner_append_slash (front back : Text) :
    inner ⟨front ++ '/' :: back⟩ = inner ⟨front⟩ ++ inner ⟨back⟩ := by
  simp [inner, Text.splitOnChar_append_separator]

@[simp] theorem inner_nil : inner ⟨[]⟩ = [] := rfl

@[simp] theorem inner_dot : inner ⟨['.']⟩ = [] := by decide

theorem inner_concat_slash (front : Text) : inner ⟨front ++ ['/']⟩ = inner ⟨front⟩ := by
  simp [inner_append_slash]

/-- A text without slashes that is neither empty nor a dot is one component. -/
theorem exists_inner_eq_singleton {piece : Text} (hslash : '/' ∉ piece) (hnil : piece ≠ [])
    (hdot : piece ≠ ['.']) : ∃ component, inner ⟨piece⟩ = [component] := by
  rw [inner, Text.splitOnChar_of_notMem hslash]
  by_cases hparent : piece = ['.', '.']
  · exact ⟨.parent, by simp [Component.ofPiece?, hparent]⟩
  · exact ⟨.name piece, by simp [Component.ofPiece?, hnil, hdot, hparent]⟩

theorem ofPiece?_eq_none_iff {piece : Text} :
    Component.ofPiece? piece = none ↔ piece = [] ∨ piece = ['.'] := by
  by_cases hstay : piece = [] ∨ piece = ['.']
  · simp [Component.ofPiece?, hstay]
  · by_cases hparent : piece = ['.', '.'] <;> simp [Component.ofPiece?, hstay, hparent]

/-- A piece stands for a component that is spelled like it, or for none. -/
theorem ofPiece?_eq (piece : Text) : Component.ofPiece? piece = none ∨
    ∃ component, Component.ofPiece? piece = some component ∧ component.text = piece := by
  by_cases hstay : piece = [] ∨ piece = ['.']
  · exact .inl (ofPiece?_eq_none_iff.mpr hstay)
  by_cases hparent : piece = ['.', '.']
  · exact .inr ⟨.parent, by simp [Component.ofPiece?, hparent], hparent.symm⟩
  · exact .inr ⟨.name piece, by simp [Component.ofPiece?, hstay, hparent], rfl⟩

theorem isAbsolute_iff : p.isAbsolute = true ↔ ∃ rest, p.text = '/' :: rest := by
  cases h : p.text with
  | nil => simp [isAbsolute, h]
  | cons c rest => simp [isAbsolute, h]

/-- The components of an absolute path are those that stand between slashes behind the first one. -/
theorem exists_inner_eq (h : p.isAbsolute = true) : ∃ rest, p.text = '/' :: rest ∧
    p.inner = (Text.splitOnChar '/' rest).filterMap Component.ofPiece? := by
  obtain ⟨rest, htext⟩ := isAbsolute_iff.mp h
  exact ⟨rest, htext, by simp [inner, htext, Component.ofPiece?]⟩

structure Alike (p q : Path) : Prop where
  left : p.isAbsolute = true
  right : q.isAbsolute = true
  inner_eq : p.inner = q.inner

/-- What `dropTail` leaves of an absolute path, both reversed: all but slashes and dots at the end. So
it is the root, or it ends in a component. -/
private structure Trimmed (kept reversed : Text) : Prop where
  isSuffix : kept <:+ reversed
  ne_nil : kept ≠ []
  inner_eq : inner ⟨kept.reverse⟩ = inner ⟨reversed.reverse⟩
  ends : kept = ['/'] ∨ kept.head? ≠ some '/' ∧ ∀ rest, kept ≠ '.' :: '/' :: rest

private theorem Trimmed.getLast?_eq {kept reversed : Text} (h : Trimmed kept reversed) :
    kept.getLast? = reversed.getLast? := by
  obtain ⟨front, rfl⟩ := h.isSuffix
  rw [List.getLast?_append_of_ne_nil _ h.ne_nil]

private theorem Trimmed.behind {kept rest front : Text} (h : Trimmed kept rest)
    (hinner : inner ⟨(front ++ rest).reverse⟩ = inner ⟨rest.reverse⟩) :
    Trimmed kept (front ++ rest) :=
  ⟨h.isSuffix.trans (List.suffix_append _ _), h.ne_nil, h.inner_eq.trans hinner.symm, h.ends⟩

private theorem getLast?_of_append {front rest : Text} (hrest : rest ≠ [])
    (h : (front ++ rest).getLast? = some '/') : rest.getLast? = some '/' := by
  rwa [List.getLast?_append_of_ne_nil _ hrest] at h

private theorem trimmed_dropTail {reversed : Text} (h : reversed.getLast? = some '/') :
    Trimmed (dropTail reversed) reversed := by
  fun_induction dropTail reversed with
  | case1 => simp at h
  | case2 => exact ⟨List.suffix_refl _, by simp, rfl, .inl rfl⟩
  | case3 rest hrest ih =>
    have hinner : inner ⟨(['/'] ++ rest).reverse⟩ = inner ⟨rest.reverse⟩ := by
      simpa using inner_concat_slash rest.reverse
    exact (ih (@getLast?_of_append ['/'] rest hrest h)).behind hinner
  | case4 => exact ⟨⟨['.'], rfl⟩, by simp, by decide, .inl rfl⟩
  | case5 rest hrest ih =>
    have hinner : inner ⟨(['.', '/'] ++ rest).reverse⟩ = inner ⟨rest.reverse⟩ := by
      simpa using inner_append_slash rest.reverse ['.']
    exact (ih (@getLast?_of_append ['.', '/'] rest hrest h)).behind hinner
  | case6 reversed _ _ hslash hdot =>
    refine ⟨List.suffix_refl _, by rintro rfl; simp at h, rfl, .inr ⟨fun hhead => ?_, hdot⟩⟩
    obtain ⟨rest, hrest⟩ := List.head?_eq_some_iff.mp hhead
    exact hslash rest hrest

/-- A path that does not end in slashes or dots is its parent and one component more. -/
private theorem parent?_of_kept {kept : Text} (hkept : dropTail p.text.reverse = kept)
    (hlast : kept.getLast? = some '/') (hslash : kept.head? ≠ some '/')
    (hdot : ∀ rest, kept ≠ '.' :: '/' :: rest) :
    ∃ directory component, p.parent? = some directory ∧ directory.isAbsolute = true ∧
      inner ⟨kept.reverse⟩ = directory.inner ++ [component] ∧ directory.text.reverse <:+ kept := by
  -- The last piece stands before the first slash of the reversed text.
  obtain ⟨piece, back, rfl, hpiece⟩ := List.eq_append_cons_of_mem (List.mem_of_getLast? hlast)
  have hdrop : (piece ++ '/' :: back).dropWhile (· ≠ '/') = '/' :: back := by
    rw [List.dropWhile_append_of_pos, List.dropWhile_cons_of_neg (by simp)]
    intro c hc
    simpa using ne_of_mem_of_not_mem hc hpiece
  have hroot : ('/' :: back).getLast? = some '/' := by
    rwa [List.getLast?_append_of_ne_nil _ (List.cons_ne_nil _ _)] at hlast
  have htrimmed := trimmed_dropTail hroot
  have hnil : piece ≠ [] := by
    rintro rfl
    exact hslash rfl
  have hne : piece.reverse ≠ ['.'] := by
    intro heq
    exact hdot back (by simp [List.reverse_eq_iff.mp heq])
  obtain ⟨component, hcomponent⟩ := @exists_inner_eq_singleton piece.reverse
    (by simpa using hpiece) (by simpa using hnil) hne
  refine ⟨⟨(dropTail ('/' :: back)).reverse⟩, component, ?parent, ?absolute, ?inner, ?suffix⟩
  case parent =>
    rw [parent?, hkept]
    split
    · rename_i heq
      simp at heq
    · rename_i heq
      exact absurd (congrArg List.head? heq) hslash
    · rw [hdrop]
  case absolute =>
    have hlast := htrimmed.getLast?_eq.trans hroot
    simpa [isAbsolute] using hlast
  case inner =>
    have hinner := htrimmed.inner_eq
    rw [hinner]
    simp [inner_append_slash, hcomponent]
  case suffix =>
    simpa using htrimmed.isSuffix.trans (List.suffix_append _ _)

/-- The parent of an absolute path is absolute, and its text is the beginning of that of the path. Only
the root has none. -/
theorem parent?_spec (h : p.isAbsolute = true) :
    (p.parent? = none ∧ p.inner = []) ∨
      ∃ directory component, p.parent? = some directory ∧ directory.isAbsolute = true ∧
        p.inner = directory.inner ++ [component] ∧ directory.text <+: p.text := by
  obtain ⟨rest, htext⟩ := isAbsolute_iff.mp h
  have habsolute : p.text.reverse.getLast? = some '/' := by simp [htext]
  have htrimmed := trimmed_dropTail habsolute
  have hlast := htrimmed.getLast?_eq.trans habsolute
  have hinner : inner ⟨(dropTail p.text.reverse).reverse⟩ = p.inner := by
    simpa using htrimmed.inner_eq
  rcases htrimmed.ends with hroot | ⟨hslash, hdot⟩
  · left
    rw [hroot] at hinner
    exact ⟨by simp [parent?, hroot], hinner.symm⟩
  · right
    obtain ⟨directory, component, hparent, hdirectory, hcomponent, hsuffix⟩ :=
      parent?_of_kept rfl hlast hslash hdot
    refine ⟨directory, component, hparent, hdirectory, hinner.symm.trans hcomponent, ?_⟩
    exact List.reverse_suffix.mp (hsuffix.trans htrimmed.isSuffix)

theorem isAbsolute_of_parent? (h : p.isAbsolute = true) (hparent : p.parent? = some directory) :
    directory.isAbsolute = true ∧ directory.text <+: p.text ∧
      ∃ component, p.inner = directory.inner ++ [component] := by
  rcases parent?_spec h with ⟨hnone, -⟩ | ⟨above, component, habove, habsolute, hinner, hprefix⟩
  · cases hparent.symm.trans hnone
  · obtain rfl := Option.some.inj (hparent.symm.trans habove)
    exact ⟨habsolute, hprefix, component, hinner⟩

theorem parent?_ne_none (h : p.isAbsolute = true) (hinner : p.inner ≠ []) : p.parent? ≠ none := by
  rcases parent?_spec h with ⟨-, hnil⟩ | ⟨above, component, habove, -⟩
  · exact absurd hnil hinner
  · simp [habove]

/-- Paths that are spelled alike have parents that are. -/
theorem Alike.parent? (h : Alike p q) : Option.Rel Alike p.parent? q.parent? := by
  have hinner := h.inner_eq
  cases hp : p.parent? with
  | none =>
    cases hq : q.parent? with
    | none => exact .none
    | some above =>
      obtain ⟨-, -, component, hcomponent⟩ := isAbsolute_of_parent? h.right hq
      exact absurd hp (parent?_ne_none h.left (by simp [hinner, hcomponent]))
  | some above =>
    obtain ⟨habove, -, component, hcomponent⟩ := isAbsolute_of_parent? h.left hp
    cases hq : q.parent? with
    | none =>
      exact absurd hq (parent?_ne_none h.right (by simp [← hinner, hcomponent]))
    | some above' =>
      obtain ⟨habove', -, component', hcomponent'⟩ := isAbsolute_of_parent? h.right hq
      rw [hcomponent, hcomponent'] at hinner
      exact .some ⟨habove, habove', (List.append_inj' hinner rfl).1⟩

/-- A directory above an absolute path is absolute, and its text is the beginning of that of the
path. -/
theorem isAbsolute_of_mem_ancestors (h : p.isAbsolute = true) (hmem : directory ∈ p.ancestors) :
    directory.isAbsolute = true ∧ directory.text <+: p.text := by
  have hwithin (n : Nat) (p : Path) (h : p.isAbsolute = true)
      (hmem : directory ∈ p.ancestorsWithin n) :
      directory.isAbsolute = true ∧ directory.text <+: p.text := by
    induction n generalizing p with
    | zero => cases hmem
    | succ n ih =>
      rcases List.mem_cons.mp hmem with rfl | hmem
      · exact ⟨h, List.prefix_refl _⟩
      cases hparent : p.parent? with
      | none => simp [hparent] at hmem
      | some above =>
        obtain ⟨habove, hprefix, -⟩ := isAbsolute_of_parent? h hparent
        obtain ⟨hdirectory, hbelow⟩ := ih above habove (by simpa [hparent] using hmem)
        exact ⟨hdirectory, hbelow.trans hprefix⟩
  exact hwithin _ p h hmem

private theorem length_splitOnChar_le (separator : Char) (text : Text) :
    (text.splitOnChar separator).length ≤ text.length + 1 := by
  induction text with
  | nil => simp
  | cons c rest ih =>
    by_cases hc : c = separator
    · subst hc
      simpa using ih
    · obtain ⟨piece, pieces, hrest, hcons⟩ := Text.splitOnChar_cons_of_ne hc rest
      rw [hrest] at ih
      simp only [hcons, List.length_cons] at ih ⊢
      omega

/-- There are no more components than the text is long. -/
private theorem length_inner_lt (h : p.isAbsolute = true) : p.inner.length < p.text.length + 1 := by
  obtain ⟨rest, htext, hinner⟩ := exists_inner_eq h
  have hlength := List.length_filterMap_le Component.ofPiece? (Text.splitOnChar '/' rest)
  have hpieces := length_splitOnChar_le '/' rest
  rw [hinner, htext, List.length_cons]
  omega

private theorem Alike.ancestorsWithin {n m : Nat} (h : Alike p q) (hn : p.inner.length < n)
    (hm : q.inner.length < m) :
    List.Forall₂ Alike (p.ancestorsWithin n) (q.ancestorsWithin m) := by
  induction n generalizing m p q with
  | zero => omega
  | succ n ih =>
    cases m with
    | zero => omega
    | succ m =>
      refine .cons h ?_
      have hparent := h.parent?
      generalize hp : p.parent? = above at hparent ⊢
      generalize hq : q.parent? = above' at hparent ⊢
      cases hparent with
      | none => exact .nil
      | some habove =>
        obtain ⟨-, -, component, hinner⟩ := isAbsolute_of_parent? h.left hp
        obtain ⟨-, -, component', hinner'⟩ := isAbsolute_of_parent? h.right hq
        rw [hinner, List.length_append, List.length_singleton] at hn
        rw [hinner', List.length_append, List.length_singleton] at hm
        exact ih habove (by omega) (by omega)

/-- The directories above alike paths are alike, the nearest first. -/
theorem Alike.ancestors (h : Alike p q) : List.Forall₂ Alike p.ancestors q.ancestors :=
  h.ancestorsWithin (length_inner_lt h.left) (length_inner_lt h.right)

theorem isAbsolute_child (h : directory.isAbsolute = true) (name : Text) :
    (directory.child name).isAbsolute = true := by
  obtain ⟨rest, htext⟩ := isAbsolute_iff.mp h
  rw [child, push]
  split
  · rename_i hname
    simpa [isAbsolute] using hname
  · split <;> simp [isAbsolute, htext]

theorem isAbsolute_withSuffix (h : p.isAbsolute = true) (suffix : Text) :
    (p.withSuffix suffix).isAbsolute = true := by
  obtain ⟨rest, htext⟩ := isAbsolute_iff.mp h
  simp [withSuffix, isAbsolute, htext]

theorem IsName.head?_ne_slash {name : Text} (h : IsName name) : name.head? ≠ some '/' :=
  fun hhead => h.2.2.2 (List.mem_of_head? hhead)

/-- The text of a path below a directory: a slash and the text of the path behind a text with the
components of the directory, which is no longer than the directory's. -/
theorem exists_text_child (h : directory.isAbsolute = true) {name : Text}
    (hname : name.head? ≠ some '/') :
    ∃ front, (directory.child name).text = front ++ '/' :: name ∧
      inner ⟨front⟩ = directory.inner ∧ front <+: directory.text := by
  obtain ⟨text⟩ := directory
  have hnil : text ≠ [] := by
    rintro rfl
    simp [isAbsolute] at h
  rw [child, push, if_neg hname]
  split
  · rename_i hslash
    obtain ⟨front, rfl⟩ := List.getLast?_eq_some_iff.mp (hslash.resolve_left hnil)
    exact ⟨front, by simp, (inner_concat_slash front).symm, List.prefix_append _ _⟩
  · exact ⟨text, rfl, rfl, List.prefix_refl _⟩

/-- A path below a directory has the components of both. -/
theorem inner_child (h : directory.isAbsolute = true) {name : Text} (hname : name.head? ≠ some '/') :
    (directory.child name).inner = directory.inner ++ inner ⟨name⟩ := by
  obtain ⟨front, htext, hinner, -⟩ := exists_text_child h hname
  rw [← hinner, ← inner_append_slash, ← htext]

/-- A name in an absolute directory has a parent, which is absolute. -/
theorem exists_parent?_child (h : directory.isAbsolute = true) {name : Text} (hname : IsName name) :
    ∃ above, (directory.child name).parent? = some above ∧ above.isAbsolute = true := by
  have hinner : (directory.child name).inner ≠ [] := by
    obtain ⟨component, hcomponent⟩ :=
      exists_inner_eq_singleton hname.2.2.2 hname.1 hname.2.1
    simp [inner_child h hname.head?_ne_slash, hcomponent]
  have habsolute := isAbsolute_child h name
  obtain ⟨above, habove⟩ := Option.ne_none_iff_exists'.mp (parent?_ne_none habsolute hinner)
  exact ⟨above, habove, (isAbsolute_of_parent? habsolute habove).1⟩

theorem Alike.child (h : Alike p q) (name : Text) : Alike (p.child name) (q.child name) := by
  refine ⟨isAbsolute_child h.left name, isAbsolute_child h.right name, ?_⟩
  by_cases hname : name.head? = some '/'
  · simp [Path.child, push, hname]
  · rw [inner_child h.left hname, inner_child h.right hname, h.inner_eq]

theorem Alike.normal_eq (h : Alike p q) : p.normal = q.normal := by
  rw [normal, normal, components_of_isAbsolute h.left, components_of_isAbsolute h.right, h.inner_eq]

theorem isAbsolute_iff_root_mem : p.isAbsolute = true ↔ .root ∈ p.components := by
  constructor
  · intro h
    simp [components_of_isAbsolute h]
  · intro h
    by_contra habs
    have hinner : .root ∈ p.inner := by
      rcases components_of_not_isAbsolute (Bool.eq_false_iff.mpr habs) with hc | hc
      · rwa [hc] at h
      · simpa [hc] using h
    exact isInner_of_mem_inner hinner

theorem components_normal (p : Path) :
    p.normal.components = (normalComponents p.components).reverse :=
  components_ofComponents (isNormalForm_normalComponents p)

private theorem getLast?_normalStep {before : List Component} (h : before.getLast? = some .root)
    (component : Component) : (normalStep before component).getLast? = some .root := by
  obtain ⟨front, rfl⟩ := List.getLast?_eq_some_iff.mp h
  cases component with
  | current => exact h
  | root => simp [normalStep, List.getLast?_cons]
  | name text => simp [normalStep, List.getLast?_cons]
  | parent =>
    rcases front with _ | ⟨first, _ | ⟨second, front⟩⟩
    · rfl
    · simp [normalStep]
    · simp [normalStep, List.getLast?_cons]

/-- The root stays where it is when dots are taken out. -/
theorem isAbsolute_normal (h : p.isAbsolute = true) : p.normal.isAbsolute = true := by
  have hfold (components before : List Component) (hroot : before.getLast? = some .root) :
      (components.foldl normalStep before).getLast? = some .root := by
    induction components generalizing before with
    | nil => exact hroot
    | cons component components ih => exact ih _ (getLast?_normalStep hroot component)
  have hlast : (normalComponents p.components).getLast? = some .root := by
    rw [components_of_isAbsolute h]
    exact hfold p.inner [.root] rfl
  rw [isAbsolute_iff_root_mem, components_normal, List.mem_reverse]
  exact List.mem_of_getLast? hlast

theorem isAbsolute_absolute {workingDirectory : Path}
    (h : p.isAbsolute = true ∨ workingDirectory.isAbsolute = true) :
    (p.absolute workingDirectory).isAbsolute = true := by
  rw [absolute]
  split
  · rename_i hp
    exact isAbsolute_normal hp
  · rename_i hp
    exact isAbsolute_normal (isAbsolute_child (h.resolve_left hp) p.text)

private theorem foldl_normalStep_names (names : List Text) (before : List Component) :
    (names.map Component.name).foldl normalStep before =
      (names.map Component.name).reverse ++ before := by
  induction names generalizing before with
  | nil => rfl
  | cons name names ih => simp [ih, normalStep]

/-- A normal form has no dots left that could be taken out. -/
theorem normalComponents_of_isNormalForm {components : List Component}
    (h : IsNormalForm components) : (normalComponents components).reverse = components := by
  obtain ⟨front, hfront, names, -, rfl⟩ := h
  rw [normalComponents, List.foldl_append, foldl_normalStep_names]
  simp only [fronts, List.mem_cons, List.not_mem_nil, or_false] at hfront
  rcases hfront with rfl | rfl | rfl | rfl <;> simp [normalStep]

theorem IsNormal.normal_eq (h : p.IsNormal) : p.normal = p := by
  obtain ⟨components, hform, rfl⟩ := h
  rw [normal, components_ofComponents hform, normalComponents_of_isNormalForm hform]

theorem IsNormal.eq_of_components (hp : p.IsNormal) (hq : q.IsNormal)
    (h : p.components = q.components) : p = q := by
  rw [← hp.normal_eq, ← hq.normal_eq, normal, normal, h]

/-- Whether a path is absolute and has no step up. -/
structure IsPlain (p : Path) : Prop where
  isAbsolute : p.isAbsolute = true
  parent_notMem : .parent ∉ p.inner

theorem IsPlain.exists_names (h : p.IsPlain) :
    ∃ names : List Text, p.inner = names.map Component.name ∧ ∀ name ∈ names, IsName name := by
  have hnames (components : List Component) (hinner : ∀ c ∈ components, c.IsInner)
      (hparent : .parent ∉ components) :
      ∃ names : List Text, components = names.map Component.name ∧ ∀ name ∈ names, IsName name := by
    induction components with
    | nil => exact ⟨[], rfl, by simp⟩
    | cons component components ih =>
      obtain ⟨hc, hrest⟩ := List.forall_mem_cons.mp hinner
      obtain ⟨names, rfl, hall⟩ := ih hrest fun hmem => hparent (List.mem_cons_of_mem _ hmem)
      cases component with
      | root => exact hc.elim
      | current => exact hc.elim
      | parent => simp at hparent
      | name name => exact ⟨name :: names, rfl, List.forall_mem_cons.mpr ⟨hc, hall⟩⟩
  exact hnames p.inner (fun _ hc => isInner_of_mem_inner hc) h.parent_notMem

theorem IsPlain.normalComponents_eq (h : p.IsPlain) :
    (normalComponents p.components).reverse = p.components := by
  obtain ⟨names, hinner, hnames⟩ := h.exists_names
  refine normalComponents_of_isNormalForm ⟨[.root], by simp [fronts], names, hnames, ?_⟩
  rw [components_of_isAbsolute h.isAbsolute, hinner, List.singleton_append]

/-- The normal form of a path without steps up has the same components. -/
theorem IsPlain.alike_normal (h : p.IsPlain) : Alike p p.normal := by
  refine ⟨h.isAbsolute, isAbsolute_normal h.isAbsolute, ?_⟩
  have hcomponents := components_normal p
  rw [h.normalComponents_eq, components_of_isAbsolute (isAbsolute_normal h.isAbsolute),
    components_of_isAbsolute h.isAbsolute] at hcomponents
  exact (List.cons_inj_right _).mp hcomponents.symm

theorem byteLength_push_le (before component : Text) :
    (push before component).byteLength ≤ before.byteLength + Text.byteLength ('/' :: component) := by
  rw [push]
  split
  · simp only [Text.byteLength]
    omega
  · split <;> simp [Text.byteLength_append, Text.byteLength]

/-- Components with a slash in front of each. -/
private def spelled (components : List Component) : Text :=
  components.flatMap fun component => '/' :: component.text

private theorem byteLength_foldl_push_le (components : List Component) (before : Text) :
    (components.foldl (fun text component => push text component.text) before).byteLength ≤
      Text.byteLength (before ++ spelled components) := by
  induction components generalizing before with
  | nil => simp [spelled]
  | cons component components ih =>
    have hpush := byteLength_push_le before component.text
    have hrest := ih (push before component.text)
    simp only [spelled, List.foldl_cons, List.flatMap_cons, Text.byteLength_append] at hrest ⊢
    omega

private theorem byteLength_filterMap_le (pieces : List Text) :
    (spelled (pieces.filterMap Component.ofPiece?)).byteLength ≤
      Text.byteLength (pieces.flatMap ('/' :: ·)) := by
  induction pieces with
  | nil => exact Nat.le_refl _
  | cons piece pieces ih =>
    rcases ofPiece?_eq piece with hnone | ⟨component, hcomponent, htext⟩
    · simp only [List.filterMap_cons, hnone, List.flatMap_cons, Text.byteLength_append]
      omega
    · simp only [spelled, List.filterMap_cons, hcomponent, List.flatMap_cons, htext,
        Text.byteLength_append] at ih ⊢
      omega

/-- The components of an absolute path and a slash in front of each take no more bytes than the
path. -/
private theorem byteLength_inner_le (h : p.isAbsolute = true) :
    (spelled p.inner).byteLength ≤ p.text.byteLength := by
  obtain ⟨rest, htext, hinner⟩ := exists_inner_eq h
  rw [hinner, htext, ← Text.flatMap_splitOnChar]
  exact byteLength_filterMap_le _

/-- The normal form of a path without steps up takes no more bytes than the path. -/
theorem IsPlain.byteLength_normal_le (h : p.IsPlain) :
    p.normal.text.byteLength ≤ p.text.byteLength := by
  have hlength := byteLength_inner_le h.isAbsolute
  obtain ⟨names, hinner, hnames⟩ := h.exists_names
  have hnormal : p.normal = ofComponents (.root :: p.inner) := by
    rw [normal, h.normalComponents_eq, components_of_isAbsolute h.isAbsolute]
  rw [hnormal]
  rw [hinner] at hlength ⊢
  cases names with
  | nil =>
    obtain ⟨rest, htext⟩ := isAbsolute_iff.mp h.isAbsolute
    simp [ofComponents, htext, Text.byteLength, push, Component.text]
  | cons name names =>
    have hname : push ['/'] name = '/' :: name := by
      simp [push, (hnames name List.mem_cons_self).head?_ne_slash]
    have htext : (ofComponents (.root :: (name :: names).map Component.name)).text =
        (names.map Component.name).foldl (fun text component => push text component.text)
          ('/' :: name) := by
      simp only [ofComponents, List.map_cons, List.foldl_cons, Component.text]
      rw [← hname]
      rfl
    rw [htext]
    exact Nat.le_trans (byteLength_foldl_push_le (names.map Component.name) ('/' :: name)) hlength

end ComponentBundle.Path
