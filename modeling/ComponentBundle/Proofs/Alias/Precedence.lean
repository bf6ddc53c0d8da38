import ComponentBundle.Proofs.Alias.Star
import ComponentBundle.Proofs.Resolver.Tested
import Mathlib.Data.Prod.Lex

/-!
# Which alias counts

An entry stands for the paths that its templates spell with what its first star takes, each with every
suffix behind it. Of the files among them the first one counts, by templates before suffixes. Of all
entries that have a file the last one counts, and an entry without a file counts for nothing, wherever it
stands.
-/
namespace ComponentBundle.Alias

variable {tree : FileTree} {base p q : Path} {specifier wildcard template text : Text} {entry : Entry}
  {table : Table} {captures : List Text} {i j : ℕ}

/-- The text that a template spells: its first star, if it has one, gives way to the wildcard. -/
inductive Spells (wildcard : Text) : (template text : Text) → Prop where
  | plain {template : Text} (h : '*' ∉ template) : Spells wildcard template template
  | starred {front : Text} (h : '*' ∉ front) (rest : Text) :
    Spells wildcard (front ++ '*' :: rest) (front ++ wildcard ++ rest)

theorem Spells.cons {c : Char} (hc : c ≠ '*') (h : Spells wildcard template text) :
    Spells wildcard (c :: template) (c :: text) := by
  cases h with
  | plain h => exact .plain (List.not_mem_cons_of_ne_of_not_mem hc.symm h)
  | starred h rest => exact .starred (List.not_mem_cons_of_ne_of_not_mem hc.symm h) rest

theorem spells_substitute (wildcard template : Text) :
    Spells wildcard template (substitute wildcard template) := by
  induction template with
  | nil => exact .plain List.not_mem_nil
  | cons c template ih =>
    by_cases hc : c = '*'
    · subst hc
      exact .starred List.not_mem_nil template
    · rw [substitute, if_neg hc]
      exact ih.cons hc

theorem Spells.eq_substitute (h : Spells wildcard template text) :
    text = substitute wildcard template := by
  have hfront (front : Text) (hfront : '*' ∉ front) (rest : Text) :
      substitute wildcard (front ++ rest) = front ++ substitute wildcard rest := by
    induction front with
    | nil => rfl
    | cons c front ih =>
      obtain ⟨hc, hrest⟩ := List.ne_and_not_mem_of_not_mem_cons hfront
      rw [List.cons_append, substitute, if_neg hc.symm, ih hrest, List.cons_append]
  cases h with
  | plain h => simpa [substitute] using (hfront template h []).symm
  | @starred front h rest =>
    rw [hfront front h, substitute, if_pos rfl, List.append_assoc]

/-- The path that an entry stands for with its template number `i` and the suffix number `j`. -/
def Entry.StandsFor (entry : Entry) (base : Path) (specifier : Text) (i j : ℕ) (p : Path) : Prop :=
  ∃ wildcard template text suffix, Takes entry.pattern specifier wildcard ∧
    entry.templates[i]? = some template ∧ suffixes[j]? = some suffix ∧
      Spells wildcard template text ∧ p = (base.child text).normal.withSuffix suffix

/-- The specifier matches the entry, and one of the paths that the entry then stands for is a file. -/
def Entry.HasFile (tree : FileTree) (base : Path) (specifier : Text) (entry : Entry) : Prop :=
  ∃ i j p, entry.StandsFor base specifier i j p ∧ tree.isFile p = true

/-- A path that the entry stands for is a file, and none in front of it is one. -/
def Entry.IsFirstFile (tree : FileTree) (base : Path) (specifier : Text) (entry : Entry) (p : Path) :
    Prop :=
  ∃ i j, entry.StandsFor base specifier i j p ∧ tree.isFile p = true ∧
    ∀ i' j' q, toLex (i', j') < toLex (i, j) → entry.StandsFor base specifier i' j' q →
      tree.isFile q = false

namespace Entry

theorem standsFor_iff (h : (Glob.ofPattern entry.pattern).captures? specifier = some captures) :
    entry.StandsFor base specifier i j p ↔
      ∃ template suffix, entry.templates[i]? = some template ∧ suffixes[j]? = some suffix ∧
        p = (candidate base (captures.head?.getD []) template).withSuffix suffix := by
  constructor
  · rintro ⟨wildcard, template, text, suffix, htakes, htemplate, hsuffix, hspells, rfl⟩
    obtain rfl := (Glob.takes_iff h).mp htakes
    exact ⟨template, suffix, htemplate, hsuffix, by rw [candidate, hspells.eq_substitute]⟩
  · rintro ⟨template, suffix, htemplate, hsuffix, rfl⟩
    exact ⟨_, template, _, suffix, (Glob.takes_iff h).mpr rfl, htemplate, hsuffix,
      spells_substitute _ _, rfl⟩

theorem StandsFor.exists_captures? (h : entry.StandsFor base specifier i j p) :
    ∃ captures, (Glob.ofPattern entry.pattern).captures? specifier = some captures := by
  obtain ⟨_, _, _, _, htakes, -⟩ := h
  exact Glob.exists_captures?_of_matches htakes.matches

theorem StandsFor.eq (hp : entry.StandsFor base specifier i j p)
    (hq : entry.StandsFor base specifier i j q) : p = q := by
  obtain ⟨captures, hcaptures⟩ := hp.exists_captures?
  obtain ⟨template, suffix, htemplate, hsuffix, rfl⟩ := (standsFor_iff hcaptures).mp hp
  obtain ⟨template', suffix', htemplate', hsuffix', rfl⟩ := (standsFor_iff hcaptures).mp hq
  obtain rfl : template = template' := Option.some.inj (htemplate.symm.trans htemplate')
  obtain rfl : suffix = suffix' := Option.some.inj (hsuffix.symm.trans hsuffix')
  rfl

/-- Only one path is the first file. -/
theorem IsFirstFile.eq (hp : entry.IsFirstFile tree base specifier p)
    (hq : entry.IsFirstFile tree base specifier q) : p = q := by
  obtain ⟨i, j, hstands, hfile, hfirst⟩ := hp
  obtain ⟨i', j', hstands', hfile', hfirst'⟩ := hq
  rcases lt_trichotomy (toLex (i, j)) (toLex (i', j')) with hlt | heq | hgt
  · rw [hfirst' i j p hlt hstands] at hfile
    cases hfile
  · obtain ⟨rfl, rfl⟩ := Prod.mk.inj (toLex_inj.mp heq)
    exact hstands.eq hstands'
  · rw [hfirst i' j' q hgt hstands'] at hfile'
    cases hfile'

/-- An entry leads to the first of its files: templates are gone through in order, and with each of them
the suffixes. -/
theorem isFirstFile_of_resolve? (h : entry.resolve? tree base specifier = some p) :
    entry.IsFirstFile tree base specifier p := by
  obtain ⟨captures, hcaptures, hfind⟩ := Option.bind_eq_some_iff.mp h
  obtain ⟨front, template, back, htemplates, hprobe, hnone⟩ := List.findSome?_eq_some_iff.mp hfind
  obtain ⟨hfile, j, hj, hpath, hfirst⟩ := List.find?_eq_some_iff_getElem.mp hprobe
  rw [List.length_map] at hj
  rw [List.getElem_map] at hpath
  have htemplate : entry.templates[front.length]? = some template := by simp [htemplates]
  have hstands : entry.StandsFor base specifier front.length j p :=
    (standsFor_iff hcaptures).mpr
      ⟨template, suffixes[j], htemplate, List.getElem?_eq_getElem hj, hpath.symm⟩
  refine ⟨front.length, j, hstands, hfile, fun i' j' q hlt hq => ?_⟩
  obtain ⟨template', suffix, htemplate', hsuffix, rfl⟩ := (standsFor_iff hcaptures).mp hq
  rcases Prod.Lex.toLex_lt_toLex.mp hlt with hlt | ⟨heq, hlt⟩
  · -- With an earlier template no suffix leads to a file.
    have hmem : template' ∈ front := by
      rw [htemplates, List.getElem?_append_left hlt] at htemplate'
      exact List.mem_of_getElem? htemplate'
    have hno := List.find?_eq_none.mp (hnone template' hmem) _
      (List.mem_map.mpr ⟨suffix, List.mem_of_getElem? hsuffix, rfl⟩)
    simpa using hno
  · obtain rfl : template = template' := by
      rw [show i' = front.length from heq, htemplate] at htemplate'
      exact Option.some.inj htemplate'
    obtain ⟨hlength, hget⟩ := List.getElem?_eq_some_iff.mp hsuffix
    have hno := hfirst j' hlt
    rw [List.getElem_map, hget] at hno
    simpa using hno

theorem resolve?_eq_none_iff :
    entry.resolve? tree base specifier = none ↔ ¬entry.HasFile tree base specifier := by
  constructor
  · rintro hnone ⟨i, j, p, hstands, hfile⟩
    obtain ⟨captures, hcaptures⟩ := hstands.exists_captures?
    obtain ⟨template, suffix, htemplate, hsuffix, rfl⟩ := (standsFor_iff hcaptures).mp hstands
    rw [resolve?, hcaptures, Option.bind_some] at hnone
    have hprobe := List.findSome?_eq_none_iff.mp hnone template (List.mem_of_getElem? htemplate)
    exact List.find?_eq_none.mp hprobe _
      (List.mem_map.mpr ⟨suffix, List.mem_of_getElem? hsuffix, rfl⟩) hfile
  · intro hno
    cases hresolve : entry.resolve? tree base specifier with
    | none => rfl
    | some p =>
      obtain ⟨i, j, hstands, hfile, -⟩ := isFirstFile_of_resolve? hresolve
      exact absurd ⟨i, j, p, hstands, hfile⟩ hno

theorem resolve?_eq_some_iff :
    entry.resolve? tree base specifier = some p ↔ entry.IsFirstFile tree base specifier p := by
  refine ⟨isFirstFile_of_resolve?, fun hp => ?_⟩
  cases hresolve : entry.resolve? tree base specifier with
  | none =>
    obtain ⟨i, j, hstands, hfile, -⟩ := hp
    exact absurd ⟨i, j, p, hstands, hfile⟩ (resolve?_eq_none_iff.mp hresolve)
  | some q => rw [(isFirstFile_of_resolve? hresolve).eq hp]

end Entry

namespace Table

theorem resolve?_eq_some_iff : table.resolve? tree specifier = some p ↔
    ∃ before entry after, table.entries = before ++ entry :: after ∧
      entry.IsFirstFile tree table.baseDirectory specifier p ∧
        ∀ later ∈ after, ¬later.HasFile tree table.baseDirectory specifier := by
  rw [resolve?_eq_findSome?, List.findSome?_eq_some_iff]
  constructor
  · rintro ⟨later, entry, before, hreverse, hentry, hnone⟩
    refine ⟨before.reverse, entry, later.reverse, ?_, Entry.resolve?_eq_some_iff.mp hentry,
      fun other hother => Entry.resolve?_eq_none_iff.mp (hnone other (List.mem_reverse.mp hother))⟩
    rw [← List.reverse_reverse table.entries, hreverse]
    simp
  · rintro ⟨before, entry, after, hentries, hentry, hnone⟩
    refine ⟨after.reverse, entry, before.reverse, by simp [hentries],
      Entry.resolve?_eq_some_iff.mpr hentry,
      fun other hother => Entry.resolve?_eq_none_iff.mpr (hnone other (List.mem_reverse.mp hother))⟩

theorem resolve?_eq_none_iff : table.resolve? tree specifier = none ↔
    ∀ entry ∈ table.entries, ¬entry.HasFile tree table.baseDirectory specifier := by
  simp only [resolve?_eq_findSome?, List.findSome?_eq_none_iff, List.mem_reverse,
    Entry.resolve?_eq_none_iff]

/-- An entry that leads nowhere can be put anywhere. -/
theorem resolve?_insert {before after : List Entry} (hentries : table.entries = before ++ after)
    (hentry : entry.resolve? tree table.baseDirectory specifier = none) :
    { table with entries := before ++ entry :: after }.resolve? tree specifier =
      table.resolve? tree specifier := by
  rw [resolve?_eq_findSome?, resolve?_eq_findSome?, hentries]
  simp [List.findSome?_append, hentry]

/-- A specifier has an alias exactly if some entry that matches it has a file. Then it means the first
file of the last such entry. An entry that does not match the specifier, or that has no file for it, can
be put behind the others or anywhere else: the specifier means what it meant. -/
theorem last_entry_with_file_counts (tree : FileTree) (table : Table) (specifier : Text) :
    ((∃ p, table.resolve? tree specifier = some p) ↔
        ∃ entry ∈ table.entries, entry.HasFile tree table.baseDirectory specifier) ∧
      (∀ p, table.resolve? tree specifier = some p ↔
        ∃ before entry after, table.entries = before ++ entry :: after ∧
          entry.IsFirstFile tree table.baseDirectory specifier p ∧
            ∀ later ∈ after, ¬later.HasFile tree table.baseDirectory specifier) ∧
      ∀ before entry after, table.entries = before ++ after →
        ¬Matches entry.pattern specifier ∨
            ¬entry.HasFile tree table.baseDirectory specifier →
          { table with entries := before ++ entry :: after }.resolve? tree specifier =
            table.resolve? tree specifier := by
  refine ⟨?_, fun p => resolve?_eq_some_iff, fun before entry after hentries hidle => ?_⟩
  · rw [← Option.isSome_iff_exists, Option.isSome_iff_ne_none, ne_eq, resolve?_eq_none_iff]
    push Not
    rfl
  · have hno : ¬entry.HasFile tree table.baseDirectory specifier := by
      rcases hidle with hmatch | hno
      · rintro ⟨i, j, p, ⟨wildcard, _, _, _, htakes, -⟩, -⟩
        exact hmatch htakes.matches
      · exact hno
    exact resolve?_insert hentries (Entry.resolve?_eq_none_iff.mpr hno)

def buttonAliases : Table where
  configPath := .ofString "/src/tsconfig.json"
  baseDirectory := .ofString "/src"
  entries := [⟨"@ui/*".toList, ["*".toList, "../first/*".toList]⟩,
    ⟨"@ui/button".toList, ["../second/button".toList]⟩]

def buttonFiles : FileTree where
  workingDirectory := .ofString "/"
  entries := [(["src".toList], .directory), (["first".toList], .directory),
    (["first".toList, "button.js".toList], .file (some [])), (["second".toList], .directory),
    (["second".toList, "button.svelte".toList], .file (some [])),
    (["second".toList, "button.ts".toList], .file (some []))]

def missingAlias : Entry := ⟨"@*/*".toList, ["missing/*".toList, "*".toList]⟩

theorem last_entry_with_file_counts_buttons :
    let specifier := "@ui/button".toList
    let base := buttonAliases.baseDirectory
    let button := Path.ofString "/second/button.ts"
    Takes missingAlias.pattern specifier "ui".toList ∧ ¬missingAlias.HasFile buttonFiles base specifier ∧
      (∃ entry ∈ buttonAliases.entries, entry.IsFirstFile buttonFiles base specifier button) ∧
      { buttonAliases with entries := buttonAliases.entries ++ [missingAlias] }.resolve? buttonFiles
        specifier = some button := by
  intro specifier base button
  have hcaptures : (Glob.ofPattern missingAlias.pattern).captures? specifier =
      some ["ui".toList, "button".toList] := by decide
  have hno : ¬missingAlias.HasFile buttonFiles base specifier :=
    Entry.resolve?_eq_none_iff.mp (by decide +kernel)
  have hbutton : buttonAliases.resolve? buttonFiles specifier = some button := by decide +kernel
  obtain ⟨-, hlast, hidle⟩ := last_entry_with_file_counts buttonFiles buttonAliases specifier
  obtain ⟨before, entry, after, hentries, hfirst, -⟩ := (hlast button).mp hbutton
  have hmem : entry ∈ buttonAliases.entries := by simp [hentries]
  refine ⟨(Glob.takes_iff hcaptures).mpr rfl, hno, ⟨entry, hmem, hfirst⟩, ?_⟩
  rw [hidle buttonAliases.entries missingAlias [] (List.append_nil _).symm (.inr hno), hbutton]

end Table

end ComponentBundle.Alias
