import ComponentBundle.Proofs.Bundle.Records
import Mathlib.Data.Char
import Mathlib.Data.List.Lex

/-!
# Bundles without a chain

The keys of a bundle increase, whatever is recorded. So it makes no difference whether a chain is left
out while the records are taken up or taken out afterwards, if its records add no style and no
diagnostics.
-/
namespace ComponentBundle

namespace TextMap

variable {map : TextMap} {entry : Text × Text} {key value other : Text}

def erase (map : TextMap) (key : Text) : TextMap := map.filter fun entry => entry.1 ≠ key

def Increasing (map : TextMap) : Prop := map.Pairwise fun entry later => entry.1 < later.1

theorem mem_insert (h : entry ∈ map.insert key value) : entry = (key, value) ∨ entry ∈ map := by
  induction map with
  | nil => exact .inl (List.mem_singleton.mp h)
  | cons first map ih =>
    rw [insert] at h
    split at h
    · rcases List.mem_cons.mp h with rfl | hmap
      · exact .inl rfl
      · exact .inr (List.mem_cons_of_mem _ hmap)
    · split at h
      · exact List.mem_cons.mp h
      · rcases List.mem_cons.mp h with rfl | hrest
        · exact .inr List.mem_cons_self
        · exact (ih hrest).imp_right (List.mem_cons_of_mem _)

theorem Increasing.insert (h : map.Increasing) (key value : Text) :
    (map.insert key value).Increasing := by
  induction map with
  | nil => exact List.pairwise_singleton _ _
  | cons first map ih =>
    obtain ⟨hfirst, hmap⟩ := List.pairwise_cons.mp h
    rw [TextMap.insert]
    split
    · rename_i hkey
      exact List.pairwise_cons.mpr ⟨hkey ▸ hfirst, hmap⟩
    · rename_i hkey
      split
      · rename_i hlt
        have hbehind : ∀ later ∈ first :: map, key < later.1 := by
          intro later hlater
          rcases List.mem_cons.mp hlater with rfl | hlater
          · exact hlt
          · exact List.lt_trans hlt (hfirst later hlater)
        exact List.pairwise_cons.mpr ⟨hbehind, h⟩
      · rename_i hlt
        have hgreater : first.1 < key := lt_of_le_of_ne (not_lt.mp hlt) hkey
        refine List.pairwise_cons.mpr ⟨fun later hlater => ?_, ih hmap⟩
        rcases mem_insert hlater with rfl | hlater
        · exact hgreater
        · exact hfirst later hlater

theorem insert_of_forall_lt (h : ∀ entry ∈ map, key < entry.1) :
    map.insert key value = (key, value) :: map := by
  cases map with
  | nil => rfl
  | cons first map =>
    have hlt : key < first.1 := h first List.mem_cons_self
    have hne : first.1 ≠ key := fun heq => List.lt_irrefl key (heq ▸ hlt)
    rw [insert, if_neg hne, if_pos hlt]

/-- What is put under one key and what is taken from another one do not meet. -/
theorem Increasing.erase_insert (h : map.Increasing) (key value other : Text) :
    (map.insert key value).erase other =
      if key = other then map.erase other else (map.erase other).insert key value := by
  induction map with
  | nil => by_cases hother : key = other <;> simp [erase, TextMap.insert, hother]
  | cons first map ih =>
    obtain ⟨hfirst, hmap⟩ := List.pairwise_cons.mp h
    by_cases hkey : first.1 = key
    · by_cases hother : key = other <;> simp [erase, TextMap.insert, hkey, hother]
    by_cases hlt : key < first.1
    · have hinsert : TextMap.insert key value (first :: map) = (key, value) :: first :: map := by
        rw [TextMap.insert, if_neg hkey, if_pos hlt]
      by_cases hother : key = other
      · rw [hinsert, if_pos hother, erase, List.filter_cons_of_neg (by simpa using hother), erase]
      · have hbehind : ∀ entry ∈ erase (first :: map) other, key < entry.1 := by
          intro entry hentry
          rcases List.mem_cons.mp (List.mem_of_mem_filter hentry) with rfl | hentry
          · exact hlt
          · exact List.lt_trans hlt (hfirst entry hentry)
        rw [if_neg hother, insert_of_forall_lt hbehind, hinsert, erase, erase,
          List.filter_cons_of_pos (by simpa using hother)]
    · have hinsert (map : TextMap) :
          TextMap.insert key value (first :: map) = first :: map.insert key value := by
        rw [TextMap.insert, if_neg hkey, if_neg hlt]
      have hrest := ih hmap
      rw [erase, erase] at hrest
      rw [hinsert, erase, erase]
      by_cases hfound : first.1 = other
      · have hother : key ≠ other := fun heq => hkey (hfound.trans heq.symm)
        simpa [hfound, hother] using hrest
      · by_cases hother : key = other
        · simpa [hfound, hother] using hrest
        · simpa [hfound, hother, hinsert] using hrest

end TextMap

namespace Bundle

variable {bundle : Bundle} {records : List Record} {record : Record} {crumb : Breadcrumb}

/-- The bundle without what stands under a chain. -/
def without (bundle : Bundle) (crumb : Breadcrumb) : Bundle :=
  { bundle with scripts := bundle.scripts.erase crumb, paths := bundle.paths.erase crumb }

theorem paths_ofRecords_increasing (records : List Record) :
    (ofRecords records).paths.Increasing := by
  induction records using List.reverseRecOn with
  | nil => exact List.Pairwise.nil
  | append_singleton records record ih =>
    rw [ofRecords_concat]
    exact ih.insert _ _

theorem scripts_ofRecords_increasing (records : List Record) :
    (ofRecords records).scripts.Increasing := by
  induction records using List.reverseRecOn with
  | nil => exact List.Pairwise.nil
  | append_singleton records record ih =>
    rw [ofRecords_concat]
    cases hscript : record.script with
    | none => simpa [add, place, hscript] using ih
    | some script => simpa [add, place, hscript] using ih.insert _ _

/-- A chain whose records are left out is one that is taken out. -/
theorem without_ofRecords (h : ∀ record ∈ records, record.crumb = crumb →
      record.style = [] ∧ record.diagnostics = []) :
    (ofRecords records).without crumb = ofRecords (records.filter (·.crumb ≠ crumb)) := by
  induction records using List.reverseRecOn with
  | nil => rfl
  | append_singleton records record ih =>
    obtain ⟨hrecords, hrecord⟩ := List.forall_mem_append.mp h
    have hpaths := (paths_ofRecords_increasing records).erase_insert record.crumb record.path crumb
    have hscripts (script : Text) :=
      (scripts_ofRecords_increasing records).erase_insert record.crumb script crumb
    rw [ofRecords_concat, List.filter_append]
    by_cases hcrumb : record.crumb = crumb
    · obtain ⟨hstyle, hdiagnostics⟩ := hrecord record (List.mem_singleton_self _) hcrumb
      rw [List.filter_cons_of_neg (by simpa using hcrumb), List.filter_nil, List.append_nil,
        ← ih hrecords]
      rw [if_pos hcrumb] at hpaths
      cases hscript : record.script with
      | none => simp [without, add, place, hscript, hpaths, hstyle, hdiagnostics]
      | some script =>
        have hscripts := hscripts script
        rw [if_pos hcrumb] at hscripts
        simp [without, add, place, hscript, hpaths, hscripts, hstyle, hdiagnostics]
    · rw [List.filter_cons_of_pos (by simpa using hcrumb), List.filter_nil, ofRecords_concat,
        ← ih hrecords]
      rw [if_neg hcrumb] at hpaths
      cases hscript : record.script with
      | none => simp [without, add, place, hscript, hpaths]
      | some script =>
        have hscripts := hscripts script
        rw [if_neg hcrumb] at hscripts
        simp [without, add, place, hscript, hpaths, hscripts]

end Bundle

end ComponentBundle
