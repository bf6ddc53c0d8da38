import ComponentBundle.Path
import ComponentBundle.Proofs.Text.Pieces

/-!
# Normal forms of paths

A path in normal form is at most a root, at most one step above it, and names. Taking the dots out of
a path gives one, and neither a suffix behind it nor a name below it leads out. The text of such a
path says which components it has.
-/
namespace ComponentBundle.Path

/-- Whether a text is a name: neither empty nor made of one or two dots, and without slashes. -/
def IsName (name : Text) : Prop := name ≠ [] ∧ name ≠ ['.'] ∧ name ≠ ['.', '.'] ∧ '/' ∉ name

instance : DecidablePred IsName := fun name =>
  inferInstanceAs (Decidable (name ≠ [] ∧ name ≠ ['.'] ∧ name ≠ ['.', '.'] ∧ '/' ∉ name))

/-- What may stand in front of the names: taking out dots leaves no more than one step up, since the
next one takes it away. -/
def fronts : List (List Component) := [[], [.root], [.parent], [.root, .parent]]

def IsNormalForm (components : List Component) : Prop :=
  ∃ front ∈ fronts, ∃ names : List Text, (∀ name ∈ names, IsName name) ∧
    components = front ++ names.map .name

def IsNormal (p : Path) : Prop := ∃ components, IsNormalForm components ∧ p = ofComponents components

def inner (p : Path) : List Component := (p.text.splitOnChar '/').filterMap Component.ofPiece?

theorem components_of_isAbsolute {p : Path} (h : p.isAbsolute = true) :
    p.components = .root :: p.inner := by
  simp [components, inner, h]

theorem components_of_not_isAbsolute {p : Path} (h : p.isAbsolute = false) :
    p.components = p.inner ∨ p.components = .current :: p.inner := by
  by_cases hdot : (p.text.splitOnChar '/').head? = some ['.']
  · exact .inr (by simp [components, inner, h, hdot])
  · exact .inl (by simp [components, inner, h, hdot])

/-- Whether a component is a step up or a name: nothing else stands inside a path. -/
def Component.IsInner : Component → Prop
  | .parent => True
  | .name text => IsName text
  | _ => False

private theorem isInner_of_ofPiece? {piece : Text} {component : Component} (hslash : '/' ∉ piece)
    (h : Component.ofPiece? piece = some component) : component.IsInner := by
  unfold Component.ofPiece? at h
  split at h
  · simp at h
  · rename_i hdot
    obtain ⟨hne, hcurrent⟩ := not_or.mp hdot
    by_cases hparent : piece = ['.', '.']
    · obtain rfl : .parent = component := by simpa [hparent] using h
      trivial
    · obtain rfl : .name piece = component := by simpa [hparent] using h
      exact ⟨hne, hcurrent, hparent, hslash⟩

theorem isInner_of_mem_inner {p : Path} {component : Component} (h : component ∈ p.inner) :
    component.IsInner := by
  obtain ⟨piece, hpiece, hof⟩ := List.mem_filterMap.mp h
  exact isInner_of_ofPiece? (Text.notMem_of_mem_splitOnChar hpiece) hof

private theorem ofPiece?_text {component : Component} (h : component.IsInner) :
    Component.ofPiece? component.text = some component := by
  cases component with
  | root => exact h.elim
  | current => exact h.elim
  | parent => rfl
  | name name =>
    obtain ⟨hne, hcurrent, hparent, -⟩ := h
    simp [Component.ofPiece?, Component.text, hne, hcurrent, hparent]

private theorem text_ne_nil {component : Component} (h : component.IsInner) :
    component.text ≠ [] := by
  cases component with
  | root => exact h.elim
  | current => exact h.elim
  | parent => simp [Component.text]
  | name name => exact h.1

private theorem slash_notMem_text {component : Component} (h : component.IsInner) :
    '/' ∉ component.text := by
  cases component with
  | root => exact h.elim
  | current => exact h.elim
  | parent => decide
  | name name => exact h.2.2.2

/-- The components so far, the last one first, on the way to a normal form. -/
private def IsStack (before : List Component) : Prop :=
  ∃ front ∈ fronts, ∃ names : List Text, (∀ name ∈ names, IsName name) ∧
    before = names.map .name ++ front.reverse

private theorem isNormalForm_reverse {before : List Component} (h : IsStack before) :
    IsNormalForm before.reverse := by
  obtain ⟨front, hfront, names, hnames, rfl⟩ := h
  exact ⟨front, hfront, names.reverse, by simpa using hnames, by simp⟩

private theorem isStack_normalStep {before : List Component} (h : IsStack before)
    {component : Component} (hc : component.IsInner) : IsStack (normalStep before component) := by
  obtain ⟨front, hfront, names, hnames, rfl⟩ := h
  cases component with
  | root => exact hc.elim
  | current => exact hc.elim
  | name name =>
    refine ⟨front, hfront, name :: names, ?_, rfl⟩
    intro other hother
    rcases List.mem_cons.mp hother with rfl | hmem
    · exact hc
    · exact hnames other hmem
  | parent =>
    cases names with
    | cons name names =>
      refine ⟨front, hfront, names, fun other hother => hnames other (.tail _ hother), ?_⟩
      cases hrest : names.map Component.name ++ front.reverse <;> simp [normalStep, hrest]
    | nil =>
      -- Above all names a step up turns the front into one of the others.
      simp only [fronts, List.mem_cons, List.not_mem_nil, or_false] at hfront
      rcases hfront with rfl | rfl | rfl | rfl
      · exact ⟨[.parent], by simp [fronts], [], by simp, rfl⟩
      · exact ⟨[.root, .parent], by simp [fronts], [], by simp, rfl⟩
      · exact ⟨[], by simp [fronts], [], by simp, rfl⟩
      · exact ⟨[.root], by simp [fronts], [], by simp, rfl⟩

private theorem isStack_foldl {components before : List Component} (h : IsStack before)
    (hc : ∀ component ∈ components, component.IsInner) :
    IsStack (components.foldl normalStep before) := by
  induction components generalizing before with
  | nil => exact h
  | cons component components ih =>
    have hstep := isStack_normalStep h (hc component List.mem_cons_self)
    exact ih hstep fun other hother => hc other (.tail _ hother)

/-- What is left of the components of a path is in normal form. -/
theorem isNormalForm_normalComponents (p : Path) :
    IsNormalForm (normalComponents p.components).reverse := by
  have hinner : ∀ component ∈ p.inner, component.IsInner := fun _ h => isInner_of_mem_inner h
  have hnil : IsStack [] := ⟨[], by simp [fronts], [], by simp, rfl⟩
  have hroot : IsStack [.root] := ⟨[.root], by simp [fronts], [], by simp, rfl⟩
  apply isNormalForm_reverse
  cases habs : p.isAbsolute with
  | true =>
    rw [components_of_isAbsolute habs]
    change IsStack (p.inner.foldl normalStep [.root])
    exact isStack_foldl hroot hinner
  | false =>
    rcases components_of_not_isAbsolute habs with h | h
    · rw [h]
      exact isStack_foldl hnil hinner
    · rw [h]
      change IsStack (p.inner.foldl normalStep [])
      exact isStack_foldl hnil hinner

theorem isNormal_normal (p : Path) : p.normal.IsNormal :=
  ⟨_, isNormalForm_normalComponents p, rfl⟩

theorem isNormal_absolute (p workingDirectory : Path) : (p.absolute workingDirectory).IsNormal := by
  unfold absolute
  split
  · exact isNormal_normal p
  · exact isNormal_normal _

private theorem push_of_slash_notMem {before text : Text} (h : '/' ∉ text) :
    push before text =
      if before = [] ∨ before.getLast? = some '/' then before ++ text else before ++ '/' :: text := by
  have hhead : text.head? ≠ some '/' := fun hc => h (List.mem_of_head? hc)
  simp [push, hhead]

/-- Pushing behind a text without slashes puts a slash in front of each component. -/
private theorem foldl_push {components : List Component} {first : Text} (before : Text)
    (hne : first ≠ []) (hslash : '/' ∉ first) (hc : ∀ c ∈ components, c.IsInner) :
    components.foldl (fun text c => push text c.text) (before ++ first) =
      before ++ first ++ (components.map Component.text).flatMap ('/' :: ·) := by
  induction components generalizing before first with
  | nil => simp
  | cons component components ih =>
    have hmem := hc component List.mem_cons_self
    have hrest : ∀ c ∈ components, c.IsInner := fun c hc' => hc c (.tail _ hc')
    have hlast : first.getLast? ≠ some '/' := fun h => hslash (List.mem_of_getLast? h)
    have hpush : push (before ++ first) component.text =
        (before ++ first ++ ['/']) ++ component.text := by
      simp [push_of_slash_notMem (slash_notMem_text hmem), hne, hlast]
    rw [List.foldl_cons, hpush, ih _ (text_ne_nil hmem) (slash_notMem_text hmem) hrest]
    simp

private theorem filterMap_ofPiece?_text {components : List Component}
    (hc : ∀ c ∈ components, c.IsInner) :
    (components.map Component.text).filterMap Component.ofPiece? = components := by
  induction components with
  | nil => rfl
  | cons component components ih =>
    have hmem := hc component List.mem_cons_self
    simp [ofPiece?_text hmem, ih fun c hc' => hc c (.tail _ hc')]

/-- Steps up and names come out again of the pieces of the text that they make, whether or not it
begins at the root. -/
private theorem splitOnChar_foldl_push {components : List Component} (component : Component)
    (before : Text) (hbefore : before = [] ∨ before = ['/'])
    (hc : ∀ c ∈ component :: components, c.IsInner) :
    ((component :: components).foldl (fun text c => push text c.text) before) =
      before ++ (component.text ++ (components.map Component.text).flatMap ('/' :: ·)) ∧
    (component.text ++ (components.map Component.text).flatMap ('/' :: ·)).splitOnChar '/' =
      (component :: components).map Component.text := by
  have hmem := hc component List.mem_cons_self
  have hrest : ∀ c ∈ components, c.IsInner := fun c hc' => hc c (.tail _ hc')
  constructor
  · have hpush : push before component.text = before ++ component.text := by
      rcases hbefore with rfl | rfl <;> simp [push_of_slash_notMem (slash_notMem_text hmem)]
    rw [List.foldl_cons, hpush, foldl_push _ (text_ne_nil hmem) (slash_notMem_text hmem) hrest]
    simp
  · rw [Text.splitOnChar_append_flatMap (slash_notMem_text hmem)]
    · rfl
    · intro piece hpiece
      obtain ⟨c, hc', rfl⟩ := List.mem_map.mp hpiece
      exact slash_notMem_text (hrest c hc')

private theorem components_ofComponents_inner {components : List Component}
    (hc : ∀ c ∈ components, c.IsInner) : (ofComponents components).components = components := by
  cases components with
  | nil => rfl
  | cons component components =>
    have hmem := hc component List.mem_cons_self
    obtain ⟨htext, hpieces⟩ := splitOnChar_foldl_push component [] (.inl rfl) hc
    have habs : (ofComponents (component :: components)).isAbsolute = false := by
      simp only [isAbsolute, ofComponents, htext, List.nil_append]
      cases hcase : component.text with
      | nil => exact absurd hcase (text_ne_nil hmem)
      | cons c rest =>
        have hslash := slash_notMem_text hmem
        rw [hcase] at hslash
        simpa using (List.ne_of_not_mem_cons hslash).symm
    have hdot : component.text ≠ ['.'] := by
      intro h
      have hpiece := ofPiece?_text hmem
      simp [h, Component.ofPiece?] at hpiece
    have hfilter := filterMap_ofPiece?_text hc
    have hall : (ofComponents (component :: components)).text =
        component.text ++ (components.map Component.text).flatMap ('/' :: ·) := htext
    simp only [Path.components, habs, hall, hpieces]
    simpa [hdot] using hfilter

private theorem exists_text_ofComponents_root {components : List Component}
    (hne : components ≠ []) (hc : ∀ c ∈ components, c.IsInner) :
    ∃ rest, (ofComponents (.root :: components)).text = '/' :: rest ∧
      Text.splitOnChar '/' rest = components.map Component.text := by
  obtain ⟨component, components, rfl⟩ := List.exists_cons_of_ne_nil hne
  obtain ⟨htext, hpieces⟩ := splitOnChar_foldl_push component ['/'] (.inr rfl) hc
  exact ⟨_, htext, hpieces⟩

/-- The pieces of a path from the root are its components. -/
theorem splitOnChar_ofComponents_root {components : List Component} (hne : components ≠ [])
    (hc : ∀ c ∈ components, c.IsInner) :
    (ofComponents (.root :: components)).text.splitOnChar '/' =
      [] :: components.map Component.text := by
  obtain ⟨rest, htext, hpieces⟩ := exists_text_ofComponents_root hne hc
  rw [htext, Text.splitOnChar_cons_self, hpieces]

private theorem components_ofComponents_root {components : List Component}
    (hc : ∀ c ∈ components, c.IsInner) :
    (ofComponents (.root :: components)).components = .root :: components := by
  by_cases hne : components = []
  · rw [hne]
    rfl
  obtain ⟨rest, htext, hpieces⟩ := exists_text_ofComponents_root hne hc
  have hfilter := filterMap_ofPiece?_text hc
  simp only [Path.components, isAbsolute, htext, Text.splitOnChar_cons_self, hpieces]
  simpa [Component.ofPiece?] using hfilter

private theorem forall_isInner_names {names : List Text} (h : ∀ name ∈ names, IsName name) :
    (∀ c ∈ names.map Component.name, c.IsInner) ∧
      ∀ c ∈ .parent :: names.map Component.name, c.IsInner := by
  have hinner : ∀ c ∈ names.map Component.name, c.IsInner := by
    intro c hc
    obtain ⟨name, hname, rfl⟩ := List.mem_map.mp hc
    exact h name hname
  exact ⟨hinner, List.forall_mem_cons.mpr ⟨trivial, hinner⟩⟩

/-- A normal form is read back from the path that it spells. -/
theorem components_ofComponents {components : List Component} (h : IsNormalForm components) :
    (ofComponents components).components = components := by
  obtain ⟨front, hfront, names, hnames, rfl⟩ := h
  obtain ⟨hinner, hparent⟩ := forall_isInner_names hnames
  simp only [fronts, List.mem_cons, List.not_mem_nil, or_false] at hfront
  rcases hfront with rfl | rfl | rfl | rfl
  · exact components_ofComponents_inner hinner
  · exact components_ofComponents_root hinner
  · exact components_ofComponents_inner hparent
  · exact components_ofComponents_root hparent

theorem IsNormal.isNormalForm {p : Path} (h : p.IsNormal) : IsNormalForm p.components := by
  obtain ⟨components, hform, rfl⟩ := h
  exact (components_ofComponents hform).symm ▸ hform

private theorem text_ofComponents {components : List Component} (hc : ∀ c ∈ components, c.IsInner) :
    (ofComponents components).text = Text.joinWith ['/'] (components.map Component.text) ∧
      (ofComponents (.root :: components)).text =
        '/' :: Text.joinWith ['/'] (components.map Component.text) := by
  cases components with
  | nil => exact ⟨rfl, rfl⟩
  | cons component components =>
    obtain ⟨hrelative, -⟩ := splitOnChar_foldl_push component [] (.inl rfl) hc
    obtain ⟨habsolute, -⟩ := splitOnChar_foldl_push component ['/'] (.inr rfl) hc
    rw [List.map_cons, Text.joinWith_cons]
    exact ⟨hrelative, habsolute⟩

/-- How a path in normal form is spelled: a root or none, at most one step above it, and names, with
single slashes in between. -/
def IsTidy (text : Text) : Prop :=
  ∃ root ∈ [[], ['/']], ∃ up ∈ [[], [['.', '.']]], ∃ names : List Text,
    (∀ name ∈ names, IsName name) ∧ text = root ++ Text.joinWith ['/'] (up ++ names)

theorem IsNormal.isTidy {p : Path} (h : p.IsNormal) : IsTidy p.text := by
  obtain ⟨_, ⟨front, hfront, names, hnames, rfl⟩, rfl⟩ := h
  have htexts : (names.map Component.name).map Component.text = names := by
    simp [Function.comp_def, Component.text]
  obtain ⟨hinner, hparent⟩ := forall_isInner_names hnames
  obtain ⟨hrelative, habsolute⟩ := text_ofComponents hinner
  obtain ⟨hrelativeUp, habsoluteUp⟩ := text_ofComponents hparent
  rw [htexts] at hrelative habsolute
  rw [List.map_cons, htexts] at hrelativeUp habsoluteUp
  simp only [fronts, List.mem_cons, List.not_mem_nil, or_false] at hfront
  rcases hfront with rfl | rfl | rfl | rfl
  · exact ⟨[], by simp, [], by simp, names, hnames, hrelative⟩
  · exact ⟨['/'], by simp, [], by simp, names, hnames, habsolute⟩
  · exact ⟨[], by simp, [['.', '.']], by simp, names, hnames, hrelativeUp⟩
  · exact ⟨['/'], by simp, [['.', '.']], by simp, names, hnames, habsoluteUp⟩

/-- A name below a path in normal form. -/
theorem IsNormal.child {p : Path} (h : p.IsNormal) {name : Text} (hname : IsName name) :
    (p.child name).IsNormal := by
  obtain ⟨_, ⟨front, hfront, names, hnames, rfl⟩, rfl⟩ := h
  refine ⟨_, ⟨front, hfront, names ++ [name], ?_, rfl⟩, ?_⟩
  · intro other hother
    rcases List.mem_append.mp hother with hmem | hmem
    · exact hnames other hmem
    · exact List.mem_singleton.mp hmem ▸ hname
  · simp [ofComponents, Path.child, Component.text]

def IsSuffix (suffix : Text) : Prop := '/' ∉ suffix ∧ ∃ c ∈ suffix, c ≠ '.'

instance : DecidablePred IsSuffix := fun suffix =>
  decidable_of_iff ('/' ∉ suffix ∧ suffix.any (· ≠ '.')) (by simp [IsSuffix])

private theorem isName_append {text suffix : Text} (htext : '/' ∉ text) (h : IsSuffix suffix) :
    IsName (text ++ suffix) := by
  obtain ⟨hslash, c, hc, hdot⟩ := h
  have hmem : c ∈ text ++ suffix := List.mem_append_right _ hc
  refine ⟨List.ne_nil_of_mem hmem, ?_, ?_, by simp [htext, hslash]⟩
  · intro heq
    simp [heq, hdot] at hmem
  · intro heq
    simp [heq, hdot] at hmem

private theorem push_append {before text : Text} (suffix : Text) (htext : text ≠ []) :
    push before (text ++ suffix) = push before text ++ suffix := by
  cases text with
  | nil => exact absurd rfl htext
  | cons c rest =>
    by_cases hc : c = '/'
    · simp [push, hc]
    · by_cases hb : before = [] ∨ before.getLast? = some '/' <;> simp [push, hc, hb]

theorem withSuffix_child (directory : Path) {name : Text} (hname : name ≠ []) (suffix : Text) :
    (directory.child name).withSuffix suffix = directory.child (name ++ suffix) := by
  rw [withSuffix, Path.child, Path.child, push_append suffix hname]

/-- A suffix behind a path in normal form belongs to its last component, or is a name of its own when
there is none. -/
theorem IsNormal.withSuffix {p : Path} (h : p.IsNormal) {suffix : Text} (hs : IsSuffix suffix) :
    (p.withSuffix suffix).IsNormal := by
  obtain ⟨_, ⟨front, hfront, names, hnames, rfl⟩, rfl⟩ := h
  rcases List.eq_nil_or_concat names with rfl | ⟨names, name, rfl⟩
  · have hsuffix : IsName ([] ++ suffix) := isName_append (by simp) hs
    have hparent : IsName (['.', '.'] ++ suffix) := isName_append (by decide) hs
    have hpush := @push_of_slash_notMem [] suffix hs.1
    have hroot := @push_of_slash_notMem ['/'] suffix hs.1
    simp only [fronts, List.mem_cons, List.not_mem_nil, or_false] at hfront
    rcases hfront with rfl | rfl | rfl | rfl
    · exact ⟨_, ⟨[], by simp [fronts], [suffix], by simpa using hsuffix, rfl⟩,
        by simp [ofComponents, Path.withSuffix, Component.text, hpush]⟩
    · exact ⟨_, ⟨[.root], by simp [fronts], [suffix], by simpa using hsuffix, rfl⟩,
        by simpa [ofComponents, Path.withSuffix, Component.text, push] using hroot.symm⟩
    · exact ⟨_, ⟨[], by simp [fronts], [['.', '.'] ++ suffix], by simpa using hparent, rfl⟩,
        by simp [ofComponents, Path.withSuffix, Component.text, push]⟩
    · exact ⟨_, ⟨[.root], by simp [fronts], [['.', '.'] ++ suffix], by simpa using hparent, rfl⟩,
        by simp [ofComponents, Path.withSuffix, Component.text, push]⟩
  · have hname : IsName name := hnames name (by simp)
    refine ⟨_, ⟨front, hfront, names ++ [name ++ suffix], ?_, rfl⟩, ?_⟩
    · intro other hother
      rcases List.mem_append.mp hother with hmem | hmem
      · exact hnames other (by simp [hmem])
      · exact List.mem_singleton.mp hmem ▸ isName_append hname.2.2.2 hs
    · simp [ofComponents, Path.withSuffix, Component.text, push_append suffix hname.1]

end ComponentBundle.Path
