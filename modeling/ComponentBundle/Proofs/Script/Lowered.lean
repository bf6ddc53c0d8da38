import ComponentBundle.Script.Lowering.Program
import Mathlib.Data.List.Forall2
import Mathlib.Data.List.Perm.Basic
import Mathlib.Data.List.TakeDrop

/-!
# The imports of a lowered script

What is left of the imports of a script stays as it is while the statements are lowered, and in its
order, whatever is put in front of it, between it and behind it.
-/
namespace ComponentBundle

/-- The third list has the items of the first two, those of each in their order. -/
inductive Interleaves {α : Type} : List α → List α → List α → Prop
  | nil : Interleaves [] [] []
  | left {a : α} {first second both : List α} :
    Interleaves first second both → Interleaves (a :: first) second (a :: both)
  | right {a : α} {first second both : List α} :
    Interleaves first second both → Interleaves first (a :: second) (a :: both)

namespace Interleaves

variable {α : Type} {first second both first' second' both' : List α}

theorem append_left (front : List α) (h : Interleaves first second both) :
    Interleaves first (front ++ second) (front ++ both) := by
  induction front with
  | nil => exact h
  | cons a front ih => exact .right ih

theorem refl_right (items : List α) : Interleaves [] items items := by
  simpa using append_left items nil

theorem append (h : Interleaves first second both) (h' : Interleaves first' second' both') :
    Interleaves (first ++ first') (second ++ second') (both ++ both') := by
  induction h with
  | nil => exact h'
  | left _ ih => exact .left ih
  | right _ ih => exact .right ih

theorem append_right (h : Interleaves first second both) (rest : List α) :
    Interleaves first (second ++ rest) (both ++ rest) := by
  simpa using h.append (refl_right rest)

theorem sublist (h : Interleaves first second both) : first.Sublist both := by
  induction h with
  | nil => exact .slnil
  | left _ ih => exact ih.cons_cons _
  | right _ ih => exact ih.cons _

theorem exists_of_append (h : Interleaves first second (both ++ both')) :
    ∃ left right left' right', first = left ++ left' ∧ second = right ++ right' ∧
      Interleaves left right both ∧ Interleaves left' right' both' := by
  induction both generalizing first second with
  | nil => exact ⟨[], [], first, second, rfl, rfl, nil, h⟩
  | cons a both ih =>
    cases h with
    | left h =>
      obtain ⟨left, right, left', right', rfl, rfl, hboth, hrest⟩ := ih h
      exact ⟨a :: left, right, left', right', rfl, rfl, .left hboth, hrest⟩
    | right h =>
      obtain ⟨left, right, left', right', rfl, rfl, hboth, hrest⟩ := ih h
      exact ⟨left, a :: right, left', right', rfl, rfl, .right hboth, hrest⟩

/-- What is put in between goes to the second list. -/
theorem exists_insert (h : Interleaves first second (both ++ both')) (between : List α) :
    ∃ others, Interleaves first others (both ++ between ++ both') := by
  obtain ⟨left, right, left', right', rfl, rfl, hboth, hrest⟩ := exists_of_append h
  have hbetween := hboth.append ((refl_right between).append hrest)
  exact ⟨_, by simpa using hbetween⟩

theorem filter (p : α → Bool) (items : List α) :
    Interleaves (items.filter p) (items.filter (!p ·)) items := by
  induction items with
  | nil => exact nil
  | cons a items ih =>
    cases hp : p a with
    | true => simpa [hp] using ih.left
    | false => simpa [hp] using ih.right

/-- Items are replaced by any number of others, those of the first list only added to. -/
theorem exists_flatMap {γ : Type} {p : α → Prop} {results : List γ}
    (h : Interleaves first second both) (text : γ → List α) (hfirst : ∀ a ∈ first, p a)
    (hresults : List.Forall₂ (fun a result => p a → ∃ rest, text result = a :: rest) both results) :
    ∃ others, Interleaves first others (results.flatMap text) := by
  induction h generalizing results with
  | nil =>
    cases hresults
    exact ⟨[], nil⟩
  | left _ ih =>
    obtain ⟨ha, hfirst⟩ := List.forall_mem_cons.mp hfirst
    cases hresults with
    | cons hresult hresults =>
      obtain ⟨rest, htext⟩ := hresult ha
      obtain ⟨others, hothers⟩ := ih hfirst hresults
      rw [List.flatMap_cons, htext]
      exact ⟨rest ++ others, (hothers.append_left rest).left⟩
  | right _ ih =>
    cases hresults with
    | cons hresult hresults =>
      obtain ⟨others, hothers⟩ := ih hfirst hresults
      exact ⟨_, hothers.append_left _⟩

end Interleaves

namespace Script.Lowering

theorem forall₂_mapM {α β : Type} {r : α → β → Prop} {f : α → Lower β}
    (h : ∀ a s, r a ((f a).run s).1) (items : List α) (s : Progress) :
    List.Forall₂ r items ((items.mapM f).run s).1 := by
  induction items generalizing s with
  | nil => exact .nil
  | cons a items ih =>
    rw [List.mapM_cons]
    exact .cons (h a s) (ih _)

/-- An import is left as it is. -/
theorem withTrailing_of_isImport (l : Lowering) {stmt : Stmt} (h : isImport stmt) (s : Progress) :
    ∃ rest, ((withTrailing l stmt).run s).1 = stmt :: rest := by
  obtain ⟨start, stop, node⟩ := stmt
  cases node with
  | importDecl isType bindings source attributes => exact ⟨_, rfl⟩
  | _ => cases h

theorem splitTop_of_isImport (n : Nat) {stmt : Stmt} (h : isImport stmt) (s : Progress) :
    ∃ rest, ((splitTop n stmt).run s).1.1 = stmt :: rest := by
  obtain ⟨start, stop, node⟩ := stmt
  cases node with
  | importDecl isType bindings source attributes => exact ⟨_, rfl⟩
  | _ => cases h

variable {imports others body : List Stmt}

/-- Imports stay at the top of a script when it gives up its resources. -/
theorem interleaves_resourceFree (n : Nat) (h : Interleaves imports others body)
    (himports : ∀ stmt ∈ imports, isImport stmt) (s : Progress) :
    ∃ others', Interleaves imports others' ((resourceFree n true body).run s).1 := by
  unfold resourceFree
  split
  · exact ⟨others, h⟩
  · have hparts := forall₂_mapM (f := splitTop n)
      (r := fun stmt part => isImport stmt → ∃ rest, part.1 = stmt :: rest)
      (fun _ s himport => splitTop_of_isImport n himport s) body s
    obtain ⟨others', hothers⟩ := h.exists_flatMap Prod.fst himports hparts
    exact ⟨_, hothers.append_right _⟩

/-- Lowering the statements of a script leaves its imports. -/
theorem interleaves_statementsRule (l : Lowering) (hl : l.around.isOutermost = true)
    (h : Interleaves imports others body) (himports : ∀ stmt ∈ imports, isImport stmt)
    (s : Progress) :
    ∃ others', Interleaves imports others' ((statementsRule l body).run s).1 := by
  obtain ⟨freed, hfreed⟩ := interleaves_resourceFree l.depth h himports { s with hoisted := [] }
  have hresults := forall₂_mapM (f := withTrailing l)
    (r := fun stmt result => isImport stmt → ∃ rest, result = stmt :: rest)
    (fun _ s himport => withTrailing_of_isImport l himport s)
    ((resourceFree l.depth true body).run { s with hoisted := [] }).1
    ((resourceFree l.depth true body).run { s with hoisted := [] }).2
  obtain ⟨others', hothers⟩ := hfreed.exists_flatMap id himports hresults
  rw [List.flatMap_id] at hothers
  unfold statementsRule
  rw [hl]
  exact ⟨_, hothers.append_left _⟩

/-- What the lowering has declared is no import. -/
theorem splitMade_eq (body : List Stmt) : (splitMade body).1 ++ (splitMade body).2 = body ∧
    ∀ stmt ∈ (splitMade body).1, ¬isImport stmt := by
  cases body with
  | nil => exact ⟨rfl, nofun⟩
  | cons first rest =>
    rw [splitMade]
    split
    · refine ⟨rfl, List.forall_mem_singleton.mpr fun himport => ?_⟩
      obtain ⟨start, stop, node⟩ := first
      cases node with
      | importDecl => simp_all [isMade, Stmt.node]
      | _ => cases himport
    · exact ⟨rfl, nofun⟩

/-- Where the lowered statements are put in order, imports keep theirs, and those of the helpers are
brought in between. -/
theorem interleaves_arranged (h : Interleaves imports others body)
    (himports : ∀ stmt ∈ imports, isImport stmt) (kept : List Kept) (s : Progress) :
    ∃ front back others', arranged kept s body = front ++ (helperImports s ++ back) ∧
      Interleaves imports others' (front ++ back) := by
  obtain ⟨hbody, hmade⟩ := splitMade_eq body
  rw [← hbody] at h
  obtain ⟨left, right, left', right', rfl, rfl, hdeclared, hrest⟩ := h.exists_of_append
  -- Variables that the lowering has declared are no imports, so all of these are behind them.
  have hleft : left = [] := List.eq_nil_iff_forall_not_mem.mpr fun stmt hstmt =>
    hmade stmt (hdeclared.sublist.subset hstmt) (himports stmt (List.mem_append_left _ hstmt))
  rw [← List.takeWhile_append_dropWhile (p := isImport) (l := (splitMade body).2)] at hrest
  obtain ⟨others', hothers⟩ := hrest.exists_insert (keyLists s ++ (splitMade body).1)
  obtain ⟨last, hlast⟩ : ∃ last, last = if losesModule kept && s.helpers.isEmpty
    then [Stmt.new (.exportNames false [] none none)] else [] := ⟨_, rfl⟩
  have hall := (hothers.append_left (heldDeclaration true false s.held)).append_right last
  subst hleft
  refine ⟨heldDeclaration true false s.held ++ (splitMade body).2.takeWhile isImport ++ keyLists s,
    (splitMade body).1 ++ (splitMade body).2.dropWhile isImport ++ last,
    heldDeclaration true false s.held ++ others' ++ last, ?_, ?_⟩
  · simp only [arranged, frontStatements, List.span_eq_takeWhile_dropWhile, List.append_assoc, hlast]
  · simpa only [List.append_assoc, List.nil_append] using hall

theorem firstFailure?_eq_none {failures : List Failure} (h : firstFailure? failures = none) :
    failures = [] := by
  cases failures with
  | nil => rfl
  | cons failure failures =>
    rw [firstFailure?] at h
    cases hrest : firstFailure? failures with
    | none => simp [hrest] at h
    | some other =>
      simp only [hrest] at h
      split at h <;> simp at h

def keptImports (preserve : Bool) (found : Program) : List Stmt :=
  (keptStatements (keptItems preserve found)).filter isImport

theorem isImport_of_mem_keptImports {preserve : Bool} {found : Program} {stmt : Stmt}
    (h : stmt ∈ keptImports preserve found) : isImport stmt :=
  (List.mem_filter.mp h).2

theorem interleaves_loweredStatements (preserve : Bool) (found : Program) :
    ∃ others, Interleaves (keptImports preserve found) others
      (loweredStatements preserve found).1 := by
  have hdepth : 4 * scopeDepth found = 4 * scopeDepth found - 1 + 1 := by
    simp only [scopeDepth]
    omega
  rw [loweredStatements, hdepth]
  exact interleaves_statementsRule _ rfl (Interleaves.filter isImport _)
    (fun _ => isImport_of_mem_keptImports) _

/-- The imports of the helpers that the lowering of a script uses. -/
def usedHelpers (preserve : Bool) (found : Program) : List Stmt :=
  helperImports (loweredStatements preserve found).2

/-- A script that is lowered takes no names from modules that are strings. What is left of its
imports is in it, in the same order, and so are the imports of the helpers. -/
theorem program_eq_ok {preserve : Bool} {found lowered : Program}
    (h : program preserve found = .ok lowered) :
    found.body.flatMap stringNames = [] ∧
      ∃ front back others, lowered.body = front ++ (usedHelpers preserve found ++ back) ∧
        Interleaves (keptImports preserve found) others (front ++ back) := by
  obtain ⟨others, hothers⟩ := interleaves_loweredStatements preserve found
  rw [usedHelpers]
  cases hrun : loweredStatements preserve found with
  | mk statements s =>
    rw [hrun] at hothers
    obtain ⟨front, back, others', hbody, hothers'⟩ := interleaves_arranged hothers
      (fun _ => isImport_of_mem_keptImports) (keptItems preserve found) s
    simp only [program, hrun] at h
    split at h
    · cases h
    · rename_i hfailures
      obtain rfl := Except.ok.inj h
      have hnone := (List.append_eq_nil_iff.mp (firstFailure?_eq_none hfailures)).1
      exact ⟨List.map_eq_nil_iff.mp hnone, front, back, others', hbody, hothers'⟩

end Script.Lowering

end ComponentBundle
