import ComponentBundle.Bundle
import Mathlib.Data.List.Induction

/-!
# Bundles of records

A bundle is made from records, one for each unit that it takes in. Styles and diagnostics are put one
after another. Under each chain of specifiers stands what was recorded last for it.
-/
namespace ComponentBundle

namespace TextMap

theorem get?_cons (entry : Text × Text) (map : TextMap) (key : Text) :
    get? (entry :: map) key = if entry.1 = key then some entry.2 else map.get? key := by
  by_cases h : entry.1 = key <;> simp [get?, h]

/-- A text is found under its key from when it is put there, whatever the order of the keys. -/
theorem get?_insert (key value : Text) (map : TextMap) (other : Text) :
    get? (insert key value map) other = if key = other then some value else map.get? other := by
  induction map with
  | nil => simp [insert, get?_cons]
  | cons entry map ih =>
    by_cases hkey : entry.1 = key
    · by_cases hother : key = other <;> simp [insert, get?_cons, hkey, hother]
    by_cases hlt : key < entry.1
    · simp [insert, get?_cons, hkey, hlt]
    · by_cases hother : key = other
      · subst hother
        simp [insert, get?_cons, hkey, hlt, ih]
      · simp [insert, get?_cons, hkey, hlt, ih, hother]

/-- A text under a new key is put between the others. -/
theorem keys_insert_perm {key : Text} {map : TextMap} (value : Text) (h : key ∉ map.map (·.1)) :
    ((insert key value map).map (·.1)).Perm (key :: map.map (·.1)) := by
  induction map with
  | nil => exact .refl _
  | cons entry map ih =>
    obtain ⟨hentry, hrest⟩ := not_or.mp (List.mem_cons.not.mp h)
    rw [insert, if_neg (Ne.symm hentry)]
    by_cases hlt : key < entry.1
    · rw [if_pos hlt]
      exact .refl _
    · rw [if_neg hlt]
      exact ((ih hrest).cons _).trans (.swap _ _ _)

end TextMap

/-- What a bundle takes in for one unit. -/
structure Record where
  crumb : Breadcrumb
  path : Text
  script : Option Text
  style : Text := []
  diagnostics : List Diagnostic := []

/-- The record of a compiled unit. -/
def CompiledUnit.toRecord (unit : CompiledUnit) (crumb : Breadcrumb) : Record :=
  ⟨crumb, unit.path.text, unit.script, unit.style, unit.diagnostics⟩

namespace Record

variable {records : List Record} {record : Record} {crumb : Breadcrumb}

/-- The path recorded last for a chain of specifiers. -/
def lastPath? (records : List Record) (crumb : Breadcrumb) : Option Text :=
  ((records.filter (·.crumb = crumb)).map (·.path)).getLast?

/-- The script recorded last for a chain of specifiers. -/
def lastScript? (records : List Record) (crumb : Breadcrumb) : Option Text :=
  ((records.filter (·.crumb = crumb)).filterMap (·.script)).getLast?

theorem lastPath?_concat (records : List Record) (record : Record) (crumb : Breadcrumb) :
    lastPath? (records ++ [record]) crumb =
      if record.crumb = crumb then some record.path else lastPath? records crumb := by
  by_cases h : record.crumb = crumb <;> simp [lastPath?, h]

theorem lastScript?_concat (records : List Record) (record : Record) (crumb : Breadcrumb) :
    lastScript? (records ++ [record]) crumb =
      if record.crumb = crumb then record.script.or (lastScript? records crumb)
      else lastScript? records crumb := by
  by_cases h : record.crumb = crumb <;> cases hscript : record.script <;>
    simp [lastScript?, h, hscript]

private theorem getLast?_eq_some {texts : List Text} {text : Text} (hmem : text ∈ texts)
    (h : ∀ other ∈ texts, other = text) : texts.getLast? = some text := by
  have hne := List.ne_nil_of_mem hmem
  rw [List.getLast?_eq_some_getLast hne, h _ (List.getLast_mem hne)]

/-- If only one path is recorded for a chain, it is the last one. -/
theorem lastPath?_eq (hmem : record ∈ records)
    (h : ∀ other ∈ records, other.crumb = record.crumb → other.path = record.path) :
    lastPath? records record.crumb = some record.path := by
  apply getLast?_eq_some
  · exact List.mem_map_of_mem (List.mem_filter.mpr ⟨hmem, by simp⟩)
  · intro path hpath
    obtain ⟨other, hother, rfl⟩ := List.mem_map.mp hpath
    obtain ⟨hother, hcrumb⟩ := List.mem_filter.mp hother
    exact h other hother (by simpa using hcrumb)

/-- If all records of a chain have the same script, or none, so does the chain. -/
theorem lastScript?_eq (hmem : record ∈ records)
    (h : ∀ other ∈ records, other.crumb = record.crumb → other.script = record.script) :
    lastScript? records record.crumb = record.script := by
  have hsame : ∀ other ∈ records.filter (·.crumb = record.crumb), other.script = record.script := by
    intro other hother
    obtain ⟨hother, hcrumb⟩ := List.mem_filter.mp hother
    exact h other hother (by simpa using hcrumb)
  cases hscript : record.script with
  | none =>
    have hnone : (records.filter (·.crumb = record.crumb)).filterMap (·.script) = [] :=
      List.filterMap_eq_nil_iff.mpr fun other hother => (hsame other hother).trans hscript
    rw [lastScript?, hnone, List.getLast?_nil]
  | some script =>
    apply getLast?_eq_some
    · exact List.mem_filterMap.mpr ⟨record, List.mem_filter.mpr ⟨hmem, by simp⟩, hscript⟩
    · intro text htext
      obtain ⟨other, hother, hscript'⟩ := List.mem_filterMap.mp htext
      rw [hsame other hother, hscript] at hscript'
      exact (Option.some.inj hscript').symm

theorem lastPath?_eq_some (hmem : record ∈ records)
    (h : ∀ other ∈ records, other.crumb = record.crumb → other = record) :
    lastPath? records record.crumb = some record.path :=
  lastPath?_eq hmem fun other hother hcrumb => by rw [h other hother hcrumb]

theorem lastScript?_eq_some {script : Text} (hmem : record ∈ records)
    (h : ∀ other ∈ records, other.crumb = record.crumb → other = record)
    (hscript : record.script = some script) :
    lastScript? records record.crumb = some script := by
  rw [← hscript]
  exact lastScript?_eq hmem fun other hother hcrumb => by rw [h other hother hcrumb]

end Record

namespace Bundle

/-- The bundle with one more record. -/
def add (bundle : Bundle) (record : Record) : Bundle :=
  { bundle.place record.crumb record.path record.script with
    style := bundle.style ++ record.style
    diagnostics := bundle.diagnostics ++ record.diagnostics }

theorem record_eq_add (bundle : Bundle) (crumb : Breadcrumb) (unit : CompiledUnit) :
    bundle.record crumb unit = bundle.add (unit.toRecord crumb) := rfl

theorem place_eq_add (bundle : Bundle) (crumb : Breadcrumb) (path : Text) (script : Option Text) :
    bundle.place crumb path script = bundle.add { crumb, path, script } := by
  simp [add, place]

theorem paths_add (bundle : Bundle) (record : Record) (crumb : Breadcrumb) :
    (bundle.add record).paths.get? crumb =
      if record.crumb = crumb then some record.path else bundle.paths.get? crumb :=
  TextMap.get?_insert ..

theorem script?_add (bundle : Bundle) (record : Record) (crumb : Breadcrumb) :
    (bundle.add record).script? crumb =
      if record.crumb = crumb then record.script.or (bundle.script? crumb)
      else bundle.script? crumb := by
  cases hscript : record.script with
  | none => simp [add, place, script?, hscript]
  | some script => simp [add, place, script?, hscript, TextMap.get?_insert]

/-- The bundle of some records. -/
def ofRecords (records : List Record) : Bundle := records.foldl add {}

theorem ofRecords_concat (records : List Record) (record : Record) :
    ofRecords (records ++ [record]) = (ofRecords records).add record := by
  simp [ofRecords]

theorem style_ofRecords (records : List Record) :
    (ofRecords records).style = records.flatMap (·.style) := by
  induction records using List.reverseRecOn with
  | nil => rfl
  | append_singleton records record ih => simp [ofRecords_concat, add, ih]

theorem diagnostics_ofRecords (records : List Record) :
    (ofRecords records).diagnostics = records.flatMap (·.diagnostics) := by
  induction records using List.reverseRecOn with
  | nil => rfl
  | append_singleton records record ih => simp [ofRecords_concat, add, ih]

theorem paths_ofRecords (records : List Record) (crumb : Breadcrumb) :
    (ofRecords records).paths.get? crumb = Record.lastPath? records crumb := by
  induction records using List.reverseRecOn with
  | nil => rfl
  | append_singleton records record ih =>
    rw [ofRecords_concat, paths_add, Record.lastPath?_concat, ih]

theorem script?_ofRecords (records : List Record) (crumb : Breadcrumb) :
    (ofRecords records).script? crumb = Record.lastScript? records crumb := by
  induction records using List.reverseRecOn with
  | nil => rfl
  | append_singleton records record ih =>
    rw [ofRecords_concat, script?_add, Record.lastScript?_concat, ih]

/-- If no chain is recorded twice, there is one path for each record. -/
theorem keys_ofRecords {records : List Record} (h : (records.map (·.crumb)).Nodup) :
    ((ofRecords records).paths.map (·.1)).Perm (records.map (·.crumb)) := by
  induction records using List.reverseRecOn with
  | nil => exact .refl _
  | append_singleton records record ih =>
    rw [List.map_append] at h
    obtain ⟨hrecords, -, hnew⟩ := List.nodup_append.mp h
    have hperm := ih hrecords
    have hkey : record.crumb ∉ (ofRecords records).paths.map (·.1) := fun hmem =>
      hnew _ (hperm.subset hmem) _ (List.mem_singleton_self _) rfl
    rw [ofRecords_concat, List.map_append]
    have hadd : (((ofRecords records).add record).paths.map (·.1)).Perm
        (record.crumb :: (ofRecords records).paths.map (·.1)) :=
      TextMap.keys_insert_perm record.path hkey
    exact hadd.trans ((hperm.cons _).trans (List.perm_append_singleton _ _).symm)

end Bundle

end ComponentBundle
