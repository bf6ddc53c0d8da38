import ComponentBundle.Proofs.Path.Absolute

/-!
# Where a path leads

Read from left to right, a path leads so many steps above the place it is read from, and from there
down through names. The normal form keeps the names. Of the steps above it keeps one if their number
is odd and none if it is even, since a step up that was kept is taken away by the next one. So it is
the lexical resolution of the path as long as the path does not lead above its place.
-/
namespace ComponentBundle.Path

/-- The way from the place where a path is read to where it leads: steps above the place, and the
names on the way down from there. Above the root there is only the root, so an absolute path leads to
the names behind the root. -/
structure Route where
  ups : Nat
  names : List Text
  deriving DecidableEq, Repr

namespace Route

/-- One component further. A step up takes the last name back, and leads above the place when there
is none. -/
def step (route : Route) : Component → Route
  | .root => ⟨0, []⟩
  | .current => route
  | .parent => if route.names = [] then ⟨route.ups + 1, []⟩ else ⟨route.ups, route.names.dropLast⟩
  | .name text => ⟨route.ups, route.names ++ [text]⟩

@[simp] theorem step_current (route : Route) : route.step .current = route := rfl

@[simp] theorem step_name (route : Route) (text : Text) :
    route.step (.name text) = ⟨route.ups, route.names ++ [text]⟩ := rfl

@[simp] theorem step_parent_nil (ups : Nat) : step ⟨ups, []⟩ .parent = ⟨ups + 1, []⟩ := rfl

@[simp] theorem step_parent_concat (ups : Nat) (names : List Text) (name : Text) :
    step ⟨ups, names ++ [name]⟩ .parent = ⟨ups, names⟩ := by
  simp [step]

def append (first second : Route) : Route :=
  if second.ups ≤ first.names.length then
    ⟨first.ups, first.names.take (first.names.length - second.ups) ++ second.names⟩
  else ⟨first.ups + (second.ups - first.names.length), second.names⟩

@[simp] theorem append_here (first : Route) : first.append ⟨0, []⟩ = first := by
  simp [append]

/-- A step further on the second way is one on the whole way. -/
theorem step_append (first second : Route) {component : Component} (h : component.IsInner) :
    (first.append second).step component = first.append (second.step component) := by
  obtain ⟨above, before⟩ := first
  obtain ⟨ups, names⟩ := second
  cases component with
  | root => exact h.elim
  | current => exact h.elim
  | name text =>
    by_cases hups : ups ≤ before.length <;> simp [append, hups]
  | parent =>
    rcases List.eq_nil_or_concat names with rfl | ⟨names, name, rfl⟩
    · rcases Nat.lt_trichotomy ups before.length with hlt | rfl | hgt
      · -- A name of the first way is left, which the step takes back.
        have htake : (before.take (before.length - ups)).dropLast =
            before.take (before.length - (ups + 1)) := by
          rw [List.dropLast_eq_take, List.take_take, List.length_take]
          congr 1
          omega
        have hne : before.take (before.length - ups) ≠ [] := by
          intro hnil
          have hlength := congrArg List.length hnil
          simp only [List.length_take, List.length_nil] at hlength
          omega
        have hups : ups ≤ before.length := Nat.le_of_lt hlt
        have hsucc : ups + 1 ≤ before.length := hlt
        simp [append, step, hups, hsucc, hne, htake]
      · simp [append]
      · have hups : ¬ ups ≤ before.length := by omega
        have hsucc : ¬ ups + 1 ≤ before.length := by omega
        simp only [append, hups, hsucc, if_false, step_parent_nil, mk.injEq, and_true]
        omega
    · by_cases hups : ups ≤ before.length
      · simp [append, hups, ← List.append_assoc]
      · simp [append, hups]

theorem foldl_step_append (first second : Route) {components : List Component}
    (h : ∀ component ∈ components, component.IsInner) :
    components.foldl step (first.append second) = first.append (components.foldl step second) := by
  induction components generalizing second with
  | nil => rfl
  | cons component components ih =>
    obtain ⟨hcomponent, hrest⟩ := List.forall_mem_cons.mp h
    rw [List.foldl_cons, step_append first second hcomponent, ih _ hrest, List.foldl_cons]

/-- What a normal form keeps of steps above: every second one takes the one before it away. -/
def kept (ups : Nat) : List Component := if ups % 2 = 1 then [.parent] else []

def spelling (route : Route) : List Component := kept route.ups ++ route.names.map .name

/-- Taking dots out follows the way, but for two steps above taking each other away. -/
theorem normalStep_spelling (route : Route) {front : List Component}
    (hfront : front = [] ∨ front = [.root]) {component : Component} (h : component.IsInner) :
    normalStep (route.spelling.reverse ++ front) component =
      (route.step component).spelling.reverse ++ front := by
  obtain ⟨ups, names⟩ := route
  cases component with
  | root => exact h.elim
  | current => exact h.elim
  | name text => simp [spelling, normalStep]
  | parent =>
    rcases List.eq_nil_or_concat names with rfl | ⟨names, name, rfl⟩
    · rcases Nat.mod_two_eq_zero_or_one ups with hups | hups
      · have hsucc : (ups + 1) % 2 = 1 := by omega
        rcases hfront with rfl | rfl <;> simp [spelling, kept, hups, hsucc, normalStep]
      · have hsucc : (ups + 1) % 2 = 0 := by omega
        simp [spelling, kept, hups, hsucc, normalStep]
    · simp [spelling, normalStep]

theorem foldl_normalStep_spelling (route : Route) {front : List Component}
    (hfront : front = [] ∨ front = [.root]) {components : List Component}
    (h : ∀ component ∈ components, component.IsInner) :
    components.foldl normalStep (route.spelling.reverse ++ front) =
      (components.foldl step route).spelling.reverse ++ front := by
  induction components generalizing route with
  | nil => rfl
  | cons component components ih =>
    obtain ⟨hcomponent, hrest⟩ := List.forall_mem_cons.mp h
    rw [List.foldl_cons, normalStep_spelling route hfront hcomponent, ih _ hrest, List.foldl_cons]

theorem foldl_step_names (route : Route) (names : List Text) :
    (names.map Component.name).foldl step route = ⟨route.ups, route.names ++ names⟩ := by
  induction names generalizing route with
  | nil => simp
  | cons name names ih => simp [ih]

def reduced (route : Route) : Route := ⟨route.ups % 2, route.names⟩

theorem foldl_step_spelling (route : Route) : route.spelling.foldl step ⟨0, []⟩ = route.reduced := by
  rw [spelling, List.foldl_append, foldl_step_names]
  rcases Nat.mod_two_eq_zero_or_one route.ups with hups | hups <;> simp [kept, reduced, hups]

/-- Reducing a way that is gone from another one does not matter if nothing of it is lost, or if what
is lost only leads up from the end of the other one's names. -/
theorem reduced_append_reduced_iff (first second : Route) :
    (first.append second.reduced).reduced = (first.append second).reduced ↔
      second.ups ≤ 1 ∨ first.names.length ≤ second.ups % 2 := by
  obtain ⟨above, before⟩ := first
  obtain ⟨ups, names⟩ := second
  by_cases hups : ups ≤ before.length
  · -- Both ways leave some of the names, so they are the same if they leave equally many.
    have hmod : ups % 2 ≤ before.length := Nat.le_trans (Nat.mod_le _ _) hups
    have htake : before.take (before.length - ups % 2) = before.take (before.length - ups) ↔
        ups % 2 = ups := by
      constructor
      · intro h
        have hlength := congrArg List.length h
        simp only [List.length_take] at hlength
        omega
      · intro h
        rw [h]
    simp only [append, reduced, hups, hmod, if_true, mk.injEq, true_and, List.append_cancel_right_eq,
      htake]
    omega
  · by_cases hmod : ups % 2 ≤ before.length
    · have htake : before.take (before.length - ups % 2) = [] ↔ before.length ≤ ups % 2 := by
        rw [← List.length_eq_zero_iff, List.length_take]
        omega
      simp only [append, reduced, hups, hmod, if_true, if_false, mk.injEq,
        List.append_left_eq_self, htake]
      omega
    · simp only [append, reduced, hups, hmod, if_false, mk.injEq, and_true]
      omega

end Route

variable {p q directory : Path}

/-- Where a path leads. -/
def route (p : Path) : Route := p.components.foldl Route.step ⟨0, []⟩

theorem route_eq (p : Path) : p.route = p.inner.foldl Route.step ⟨0, []⟩ := by
  cases habs : p.isAbsolute with
  | true => simp [route, components_of_isAbsolute habs, Route.step]
  | false =>
    rcases components_of_not_isAbsolute habs with h | h <;> simp [route, h]

/-- A normal form is where the path is read from, and the way that is kept. -/
theorem components_normal_eq (p : Path) :
    p.normal.components = (if p.isAbsolute then [.root] else []) ++ p.route.spelling := by
  have hinner : ∀ component ∈ p.inner, component.IsInner := fun _ h => isInner_of_mem_inner h
  have hfold (front : List Component) (hfront : front = [] ∨ front = [.root]) :
      p.inner.foldl normalStep front = p.route.spelling.reverse ++ front := by
    rw [route_eq, ← Route.foldl_normalStep_spelling ⟨0, []⟩ hfront hinner]
    rfl
  rw [components_normal, normalComponents]
  cases habs : p.isAbsolute with
  | true =>
    have hroot := hfold [.root] (.inr rfl)
    simp [components_of_isAbsolute habs, normalStep, hroot]
  | false =>
    have hnil := hfold [] (.inl rfl)
    rcases components_of_not_isAbsolute habs with h | h <;> simp [h, normalStep, hnil]

theorem isAbsolute_normal_eq (p : Path) : p.normal.isAbsolute = p.isAbsolute := by
  cases habs : p.isAbsolute with
  | true => exact isAbsolute_normal habs
  | false =>
    have hroot : .root ∉ p.normal.components := by
      simp [components_normal_eq, habs, Route.spelling, Route.kept]
    exact Bool.eq_false_iff.mpr fun h => hroot (isAbsolute_iff_root_mem.mp h)

theorem route_normal (p : Path) : p.normal.route = p.route.reduced := by
  rw [route, components_normal_eq, List.foldl_append, ← Route.foldl_step_spelling]
  cases p.isAbsolute <;> rfl

/-- Two paths have one normal form if they are read from one place and lead the same way. -/
theorem normal_eq_normal_iff : p.normal = q.normal ↔
    p.isAbsolute = q.isAbsolute ∧ p.route.reduced = q.route.reduced := by
  constructor
  · intro h
    rw [← isAbsolute_normal_eq p, ← isAbsolute_normal_eq q, ← route_normal, ← route_normal, h]
    exact ⟨rfl, rfl⟩
  · rintro ⟨habs, hroute⟩
    have hspelling : p.route.spelling = q.route.spelling := by
      obtain ⟨hups, hnames⟩ := Route.mk.inj hroute
      rw [Route.spelling, Route.spelling, Route.kept, Route.kept, hups, hnames]
    refine (isNormal_normal p).eq_of_components (isNormal_normal q) ?_
    rw [components_normal_eq, components_normal_eq, habs, hspelling]

theorem Component.text_ne_dot {component : Component} (h : component.IsInner) :
    component.text ≠ ['.'] := by
  cases component with
  | root => exact h.elim
  | current => exact h.elim
  | parent => simp [Component.text]
  | name name => exact h.2.1

theorem Component.text_eq_dots_iff {component : Component} (h : component.IsInner) :
    component.text = ['.', '.'] ↔ component = .parent := by
  cases component with
  | root => exact h.elim
  | current => exact h.elim
  | parent => simp [Component.text]
  | name name => exact iff_of_false h.2.2.1 (by simp)

theorem normal_eq_ofComponents (h : p.isAbsolute = true) :
    p.normal = ofComponents (.root :: p.route.spelling) := by
  have hcomponents := components_normal_eq p
  rw [components_normal, h] at hcomponents
  rw [normal, hcomponents]
  rfl

theorem isInner_of_mem_spelling (h : p.isAbsolute = true) {component : Component}
    (hmem : component ∈ p.route.spelling) : component.IsInner := by
  have hcomponents := components_normal_eq p
  rw [components_of_isAbsolute (isAbsolute_normal h), h] at hcomponents
  have hinner : p.normal.inner = p.route.spelling := (List.cons_inj_right _).mp hcomponents
  exact isInner_of_mem_inner (hinner ▸ hmem)

/-- Between its slashes the normal form of an absolute path has no dot, and a step up only if it kept
one. -/
theorem mem_splitOnChar_normal (h : p.isAbsolute = true) :
    ['.'] ∉ p.normal.text.splitOnChar '/' ∧
      (['.', '.'] ∈ p.normal.text.splitOnChar '/' ↔ p.route.ups % 2 = 1) := by
  have hinner : ∀ component ∈ p.route.spelling, component.IsInner :=
    fun _ hmem => isInner_of_mem_spelling h hmem
  have hparent : .parent ∈ p.route.spelling ↔ p.route.ups % 2 = 1 := by
    simp [Route.spelling, Route.kept]
  rw [normal_eq_ofComponents h, ← hparent]
  by_cases hne : p.route.spelling = []
  · rw [hne]
    exact ⟨by decide, by decide⟩
  rw [splitOnChar_ofComponents_root hne hinner]
  constructor
  · intro hmem
    have hmap := (List.mem_cons.mp hmem).resolve_left (by simp)
    obtain ⟨component, hcomponent, htext⟩ := List.mem_map.mp hmap
    exact Component.text_ne_dot (hinner component hcomponent) htext
  · constructor
    · intro hmem
      have hmap := (List.mem_cons.mp hmem).resolve_left (by simp)
      obtain ⟨component, hcomponent, htext⟩ := List.mem_map.mp hmap
      exact (Component.text_eq_dots_iff (hinner component hcomponent)).mp htext ▸ hcomponent
    · intro hmem
      exact List.mem_cons_of_mem _ (List.mem_map.mpr ⟨.parent, hmem, rfl⟩)

theorem inner_join (h : directory.isAbsolute = true) (hp : p.isAbsolute = false) :
    (directory.join p).inner = directory.inner ++ p.inner :=
  inner_child h (by simpa [isAbsolute] using hp)

theorem join_of_isAbsolute (hp : p.isAbsolute = true) : directory.join p = p := by
  have hhead : p.text.head? = some '/' := by simpa [isAbsolute] using hp
  simp [join, push, hhead]

theorem route_join (h : directory.isAbsolute = true) (hp : p.isAbsolute = false) :
    (directory.join p).route = directory.route.append p.route := by
  have hinner : ∀ component ∈ p.inner, component.IsInner := fun _ h => isInner_of_mem_inner h
  have happend := Route.foldl_step_append directory.route ⟨0, []⟩ hinner
  rw [Route.append_here] at happend
  rw [route_eq, inner_join h hp, List.foldl_append, ← route_eq, happend, ← route_eq]

/-- The normal form of a path leads the same way from a directory as the path does, unless it lost
steps above that the directory has names for. -/
theorem normal_join_normal_iff (h : directory.isAbsolute = true) :
    (directory.join p.normal).normal = (directory.join p).normal ↔
      p.isAbsolute = true ∨ p.route.ups ≤ 1 ∨ directory.route.names.length ≤ p.route.ups % 2 := by
  cases hp : p.isAbsolute with
  | true =>
    rw [join_of_isAbsolute hp, join_of_isAbsolute (isAbsolute_normal hp),
      (isNormal_normal p).normal_eq]
    simp
  | false =>
    have hnormal : p.normal.isAbsolute = false := (isAbsolute_normal_eq p).trans hp
    have habsolute : (directory.join p.normal).isAbsolute = (directory.join p).isAbsolute := by
      rw [join, join]
      exact (isAbsolute_child h _).trans (isAbsolute_child h _).symm
    rw [normal_eq_normal_iff, route_join h hnormal, route_join h hp, route_normal,
      Route.reduced_append_reduced_iff]
    simp [habsolute]

/-- Normal forms as lexical resolution. They are their own normal forms. The normal form of an absolute
path has the names that the path leads to, no dot, and a step up exactly if the path leads above the
root an odd number of times; so paths that lead to the same names have one normal form if they lead
above the root equally often modulo two. And a path may be replaced by its normal form below a
directory, unless two steps above are lost there that the directory has names for. -/
theorem normal_resolves_lexically (p q : Path) (h : directory.isAbsolute = true) :
    p.normal.normal = p.normal ∧
      (p.isAbsolute = true →
        p.normal.components = .root :: ((if p.route.ups % 2 = 1 then [.parent] else []) ++
            p.route.names.map .name) ∧
          ['.'] ∉ p.normal.text.splitOnChar '/' ∧
          (['.', '.'] ∈ p.normal.text.splitOnChar '/' ↔ p.route.ups % 2 = 1)) ∧
      (p.isAbsolute = true → q.isAbsolute = true → p.route.names = q.route.names →
        (p.normal = q.normal ↔ p.route.ups % 2 = q.route.ups % 2)) ∧
      ((directory.join p.normal).normal = (directory.join p).normal ↔
        p.isAbsolute = true ∨ p.route.ups ≤ 1 ∨
          directory.route.names.length ≤ p.route.ups % 2) := by
  refine ⟨(isNormal_normal p).normal_eq, fun hp => ?resolved, fun hp hq hnames => ?same,
    normal_join_normal_iff h⟩
  case resolved =>
    refine ⟨?_, mem_splitOnChar_normal hp⟩
    rw [components_normal_eq, hp]
    rfl
  case same => simp [normal_eq_normal_iff, hp, hq, Route.reduced, hnames]

/-- A path beside the directory that it is seen from, and two spellings of one absolute path. -/
theorem normal_resolves_lexically_sibling :
    (ofString "/a/./b/../c").normal.components = [.root, .name ['a'], .name ['c']] ∧
      (ofString "/a/./b/../c").normal = (ofString "//a/c/").normal ∧
      ((ofString "/a/b").join (ofString "./../c/d/..").normal).normal =
        ((ofString "/a/b").join (ofString "./../c/d/..")).normal := by
  have hdirectory : (ofString "/a/b").isAbsolute = true := by decide
  have hspelling : (ofString "/a/./b/../c").isAbsolute = true := by decide
  obtain ⟨-, hresolved, hsame, -⟩ :=
    normal_resolves_lexically (ofString "/a/./b/../c") (ofString "//a/c/") hdirectory
  obtain ⟨-, -, -, hbelow⟩ :=
    normal_resolves_lexically (ofString "./../c/d/..") (ofString "/") hdirectory
  exact ⟨(hresolved hspelling).1, (hsame hspelling (by decide) (by decide)).mpr (by decide),
    hbelow.mpr (by decide)⟩

/-- A step up from the root stays in the normal form, and in a relative path two steps above take each
other away, where they lead out of a directory. -/
theorem steps_above_are_kept_or_lost :
    (ofString "/../a").normal = ofString "/../a" ∧
      (ofString "/../a").route.names = (ofString "/a").route.names ∧
      (ofString "/../a").normal ≠ (ofString "/a").normal ∧
      (ofString "/a/b").normal = ofString "/a/b" ∧
      (ofString "../../c").normal = ofString "c" ∧
      ((ofString "/a/b").join (ofString "../../c").normal).normal = ofString "/a/b/c" ∧
      ((ofString "/a/b").join (ofString "../../c")).normal = ofString "/c" := by
  decide

end ComponentBundle.Path
