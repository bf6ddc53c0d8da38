import ComponentBundle.Proofs.Script.Lowered
import ComponentBundle.Proofs.Script.Printed
import ComponentBundle.Proofs.Text.Fold
import ComponentBundle.Standard
import Mathlib.Data.List.Flatten

/-!
# Which imports of a typed script are found

A typed script loses the imports that are there for types alone, and those whose names are not used if
they are not to be kept. The imports of what is printed are found by its lines. What the lines of the
imports name is what the modules of the declarations are called, so nothing is lost or added unless
another line of the script reads like an import, or the lowering imports a helper: it is found like all
other imports, and the walk asks for a module that no script names.
-/
namespace ComponentBundle.Script

open Import

def ImportBinding.isType : ImportBinding → Bool
  | .named _ _ isType => isType
  | _ => false

/-- The import declaration that a statement is; `used` are the names that are used as values. -/
def Stmt.declared? (used : List String) (stmt : Stmt) : Option Declared :=
  match stmt.node with
  | .importDecl isType bindings source attributes => some {
      specifier := source.toList
      isType
      names := (bindings.getD []).map fun found => ⟨found.isType, used.contains found.name⟩
      hasAttributes := attributes.isSome }
  | _ => none

/-- The module that an import is from. -/
def Stmt.specifier? (stmt : Stmt) : Option Text :=
  match stmt.node with
  | .importDecl _ _ source _ => some source.toList
  | _ => none

namespace Lowering

def TopNames.keptModule? (names : TopNames) (stmt : Stmt) : Option Text :=
  ((stmt.declared? names.used).filter (·.isNeeded names.preserve)).map (·.specifier)

variable (names : TopNames)

theorem keepsBinding_eq (binding : ImportBinding) : names.keepsBinding binding =
    (!binding.isType && (names.preserve || names.used.contains binding.name)) := by
  cases binding with
  | named imported name isType => cases isType <;> rfl
  | _ => rfl

theorem keptModule?_importDecl (start stop : Nat) (isType : Bool)
    (bindings : Option (List ImportBinding)) (source : String)
    (attributes : Option ImportAttributes) :
    names.keptModule? (.mk start stop (.importDecl isType bindings source attributes)) =
      if !isType && ((bindings.getD []).isEmpty || (bindings.getD []).any names.keepsBinding)
      then some source.toList else none := by
  have hkeeps : names.keepsBinding =
      fun found => !found.isType && (names.preserve || names.used.contains found.name) :=
    funext (keepsBinding_eq names)
  simp [TopNames.keptModule?, Stmt.declared?, Stmt.node, Declared.isNeeded, Option.filter, hkeeps,
    Function.comp_def, apply_ite (Option.map _)]

theorem keptStatements_cons (kept : Kept) (rest : List Kept) :
    keptStatements (kept :: rest) = keptStatements [kept] ++ keptStatements rest := by
  cases kept <;> rfl

/-- What is left of an import binds nothing that it did not bind before. -/
def IsLeftOf (stmt original : Stmt) : Prop :=
  ∃ bindings bindings' source attributes,
    stmt.node = .importDecl false bindings source attributes ∧
    original.node = .importDecl false bindings' source attributes ∧
    bindings.getD [] ⊆ bindings'.getD []

theorem filter_keptStatements_keep_of_not_isImport {stmt : Stmt} (h : ¬isImport stmt) :
    (keptStatements [names.keep stmt]).filter isImport = [] := by
  obtain ⟨start, stop, node⟩ := stmt
  cases node with
  | importDecl isType bindings source attributes => exact absurd rfl h
  | exportNames isType found source attributes =>
    cases isType with
    | true => rfl
    | false =>
      simp only [TopNames.keep, Stmt.node]
      split <;> rfl
  | exportDecl inner =>
    simp only [TopNames.keep, Stmt.node]
    split <;> rfl
  | exportDefaultDecl inner =>
    simp only [TopNames.keep, Stmt.node]
    split <;> rfl
  | exportDefault value =>
    cases value with
    | ident name =>
      simp only [TopNames.keep, Stmt.node]
      split <;> rfl
    | _ => rfl
  | importEquals isType name path source =>
    simp only [TopNames.keep, Stmt.node]
    split <;> rfl
  | exportAll isType name source attributes => cases isType <;> rfl
  | _ => rfl

/-- What is left of a statement: no import and no module that is kept, or one import, from the module
that is kept. -/
def LeavesImport (stmt : Stmt) : Prop :=
  (keptStatements [names.keep stmt]).filter isImport = [] ∧ names.keptModule? stmt = none ∨
    ∃ left source, (keptStatements [names.keep stmt]).filter isImport = [left] ∧
      IsLeftOf left stmt ∧ left.specifier? = some source ∧ names.keptModule? stmt = some source

/-- An import that binds names is left with those that are kept, if there are any. -/
theorem leavesImport_of_bindings (start stop : Nat) (first : ImportBinding)
    (bindings : List ImportBinding) (source : String) (attributes : Option ImportAttributes) :
    LeavesImport names
      (.mk start stop (.importDecl false (some (first :: bindings)) source attributes)) := by
  rw [LeavesImport, keptModule?_importDecl]
  cases hkept : (first :: bindings).filter names.keepsBinding with
  | nil =>
    have hnone : (first :: bindings).any names.keepsBinding = false :=
      List.any_eq_false.mpr (List.filter_eq_nil_iff.mp hkept)
    refine .inl ⟨?_, if_neg (by simpa using hnone)⟩
    simp only [TopNames.keep, Stmt.node, hkept]
    rfl
  | cons left lefts =>
    have hleft : left ∈ (first :: bindings).filter names.keepsBinding := by simp [hkept]
    have hany : (first :: bindings).any names.keepsBinding = true :=
      List.any_eq_true.mpr ⟨left, List.mem_filter.mp hleft⟩
    refine .inr ⟨.mk start stop (.importDecl false (some (left :: lefts)) source attributes),
      source.toList, ?_, ⟨_, _, _, _, rfl, rfl, hkept ▸ List.filter_subset_self _⟩, rfl,
      if_pos (by simpa using hany)⟩
    simp only [TopNames.keep, Stmt.node, hkept]
    rfl

theorem leavesImport (stmt : Stmt) : LeavesImport names stmt := by
  by_cases himport : isImport stmt
  · obtain ⟨start, stop, node⟩ := stmt
    cases node with
    | importDecl isType bindings source attributes =>
      match isType, bindings with
      | true, _ => exact .inl ⟨rfl, by rw [keptModule?_importDecl]; rfl⟩
      | false, none | false, some [] =>
        exact .inr ⟨_, source.toList, rfl, ⟨_, _, _, _, rfl, rfl, List.Subset.refl _⟩, rfl,
          by rw [keptModule?_importDecl]; rfl⟩
      | false, some (first :: bindings) => exact leavesImport_of_bindings names ..
    | _ => cases himport
  · refine .inl ⟨filter_keptStatements_keep_of_not_isImport names himport, ?_⟩
    obtain ⟨start, stop, node⟩ := stmt
    cases node with
    | importDecl isType bindings source attributes => exact absurd rfl himport
    | _ => rfl

/-- The modules of the imports that are left are those that are kept. -/
theorem filterMap_specifier?_keptStatements (body : List Stmt) :
    ((keptStatements (body.map names.keep)).filter isImport).filterMap Stmt.specifier? =
      body.filterMap names.keptModule? := by
  induction body with
  | nil => rfl
  | cons stmt body ih =>
    rw [List.map_cons, keptStatements_cons, List.filter_append, List.filterMap_append, ih]
    obtain ⟨hnone, hmodule⟩ | ⟨left, source, hleft, -, hsource, hmodule⟩ := leavesImport names stmt
    · rw [hnone, List.filterMap_cons_none hmodule]
      rfl
    · rw [hleft, List.filterMap_cons_some hmodule, List.filterMap_cons_some hsource]
      rfl

theorem exists_isLeftOf {body : List Stmt} {left : Stmt}
    (h : left ∈ (keptStatements (body.map names.keep)).filter isImport) :
    ∃ stmt ∈ body, IsLeftOf left stmt := by
  induction body with
  | nil => cases h
  | cons stmt body ih =>
    rw [List.map_cons, keptStatements_cons, List.filter_append] at h
    rcases List.mem_append.mp h with h | h
    · obtain ⟨hnone, -⟩ | ⟨left', source, hleft, hleftOf, -, -⟩ := leavesImport names stmt
      · rw [hnone] at h
        cases h
      · rw [hleft, List.mem_singleton] at h
        exact ⟨stmt, List.mem_cons_self, h ▸ hleftOf⟩
    · obtain ⟨original, horiginal, hleftOf⟩ := ih h
      exact ⟨original, List.mem_cons_of_mem _ horiginal, hleftOf⟩

end Lowering

def Toolchain.standardView : Toolchain.standard.View where
  declared found := found.body.filterMap
    (Stmt.declared? (Lowering.topNames (Lowering.scopeDepth found) false found.body).used)
  kept preserve found := (found.body.filterMap
    (Stmt.declared? (Lowering.topNames (Lowering.scopeDepth found) false found.body).used)).filter
      (·.isNeeded preserve)
  helpers preserve found := (Lowering.usedHelpers preserve found).filterMap Stmt.specifier?
  comments preserve found lowered := (Lowering.keptImports preserve found).map lowered.leadOf
  spell := Literal.escapedString

variable {preserve : Bool} {found lowered : Program} {stmt : Stmt}

theorem filterMap_specifier?_keptImports (preserve : Bool) (found : Program) :
    (Lowering.keptImports preserve found).filterMap Stmt.specifier? =
      (Toolchain.standardView.kept preserve found).map (·.specifier) := by
  rw [Lowering.keptImports, Lowering.keptItems, Lowering.filterMap_specifier?_keptStatements]
  simp only [Toolchain.standardView, List.filter_filterMap, List.map_filterMap]
  rfl

theorem takesWord_of_stringNames_eq_nil {isType : Bool}
    {bindings : Option (List ImportBinding)} {source : String} {attributes : Option ImportAttributes}
    (hnode : stmt.node = .importDecl isType bindings source attributes)
    (h : Lowering.stringNames stmt = []) : ∀ binding ∈ bindings.getD [], binding.TakesWord := by
  intro binding hbinding
  rw [Lowering.stringNames, hnode] at h
  have hnone := List.flatMap_eq_nil_iff.mp h binding hbinding
  cases binding with
  | named imported name isType =>
    rw [ImportBinding.TakesWord]
    cases hstring : imported.val.isString with
    | false => rfl
    | true => simp [hstring] at hnone
  | _ => trivial

/-- The lines of an import are its comments and a line that names its module. -/
def IsOwnPart (lowered : Program) (stmt : Stmt) : Prop :=
  ∃ clause specifier, IsBare clause ∧ stmt.specifier? = some specifier ∧
    lowered.linesOf stmt = lowered.leadOf stmt ++
      importLine Literal.escapedString clause specifier

theorem isOwnPart_of_node {isType : Bool} {bindings : Option (List ImportBinding)} {source : String}
    (hnode : stmt.node = .importDecl isType bindings source none)
    (hbindings : ∀ binding ∈ bindings.getD [], binding.TakesWord) : IsOwnPart lowered stmt := by
  obtain ⟨w, hlines⟩ := lowered.exists_linesOf_eq stmt
  refine ⟨importFront bindings, source.toList, isBare_importFront hbindings, ?_, ?_⟩
  · rw [Stmt.specifier?, hnode]
  · rw [hlines, hnode, toList_node_importDecl]

/-- An import that is left takes no names that are strings, and it has no attributes if no import of
the script has any. -/
theorem isOwnPart_of_mem_keptImports
    (hlower : Lowering.program preserve found = .ok lowered)
    (hattributes : ∀ declared ∈ Toolchain.standardView.declared found, ¬declared.hasAttributes)
    (hstmt : stmt ∈ Lowering.keptImports preserve found) : IsOwnPart lowered stmt := by
  obtain ⟨original, horiginal, bindings, bindings', source, attributes, hnode, hnode', hsubset⟩ :=
    Lowering.exists_isLeftOf _ hstmt
  have hnone : attributes = none := by
    obtain ⟨declared, hdeclared, hsome⟩ : ∃ declared, original.declared?
        (Lowering.topNames (Lowering.scopeDepth found) false found.body).used = some declared ∧
          declared.hasAttributes = attributes.isSome := by
      simp [Stmt.declared?, hnode']
    simpa [hsome] using hattributes declared (List.mem_filterMap.mpr ⟨original, horiginal, hdeclared⟩)
  subst hnone
  have hstrings := List.flatMap_eq_nil_iff.mp (Lowering.program_eq_ok hlower).1 original horiginal
  exact isOwnPart_of_node hnode fun binding hbinding =>
    takesWord_of_stringNames_eq_nil hnode' hstrings binding (hsubset hbinding)

/-- Statements with imports among them are printed as parts. -/
theorem exists_isMadeOf {imports others body : List Stmt} (h : Interleaves imports others body)
    (himports : ∀ stmt ∈ imports, IsOwnPart lowered stmt) : ∃ parts,
      IsMadeOf Literal.escapedString (body.flatMap lowered.linesOf) parts
        (imports.filterMap Stmt.specifier?) (imports.map lowered.leadOf) [] := by
  induction h with
  | nil => exact ⟨_, .nil⟩
  | @left stmt _ _ _ _ ih =>
    obtain ⟨⟨clause, specifier, hclause, hspecifier, hlines⟩, hlater⟩ :=
      List.forall_mem_cons.mp himports
    obtain ⟨parts, hparts⟩ := ih hlater
    have hall := (IsMadeOf.own (lowered.leadOf stmt) specifier hclause).append hparts
    rw [← hlines] at hall
    rw [List.filterMap_cons_some hspecifier]
    exact ⟨_, hall⟩
  | @right stmt _ _ _ _ ih =>
    obtain ⟨parts, hparts⟩ := ih himports
    exact ⟨_, (IsMadeOf.other (Writer.endsLine_line _ _ _)).append hparts⟩

/-- No comments stand in front of a statement that the lowering makes. -/
theorem leadOf_new (lowered : Program) (node : Node) : lowered.leadOf (.new node) = [] := by
  have hfound : lowered.lineWriter.found 0 = [] := by simp [Writer.found]
  have hcomments : lowered.lineWriter.commentsAt 0 = "" := by
    rw [Writer.commentsAt, hfound]
    rfl
  simp [Program.leadOf, Program.commentsOf, Stmt.new, Stmt.start, hcomments, EndsLine]

/-- The imports of helpers are printed as parts. -/
theorem exists_isMadeOf_helpers (lowered : Program) (helpers : List Stmt)
    (h : ∀ stmt ∈ helpers, ∃ name source,
      stmt = Stmt.new (.importDecl false (some [.default name]) source none)) :
    ∃ parts, IsMadeOf Literal.escapedString (helpers.flatMap lowered.linesOf) parts [] []
      (helpers.filterMap Stmt.specifier?) := by
  induction helpers with
  | nil => exact ⟨_, .nil⟩
  | cons stmt helpers ih =>
    obtain ⟨⟨name, source, rfl⟩, hlater⟩ := List.forall_mem_cons.mp h
    obtain ⟨parts, hparts⟩ := ih hlater
    have hown : IsOwnPart lowered (.new (.importDecl false (some [.default name]) source none)) :=
      isOwnPart_of_node rfl (List.forall_mem_singleton.mpr trivial)
    obtain ⟨clause, specifier, hclause, hspecifier, hlines⟩ := hown
    rw [leadOf_new, List.nil_append] at hlines
    rw [List.filterMap_cons_some hspecifier, List.flatMap_cons, hlines]
    exact ⟨_, (IsMadeOf.helper specifier hclause).append hparts⟩

theorem exists_isMadeOf_others {α : Type} (text : α → Text) (items : List α)
    (h : ∀ a, EndsLine (text a)) : ∃ parts,
      IsMadeOf Literal.escapedString (items.flatMap text) parts [] [] [] := by
  induction items with
  | nil => exact ⟨_, .nil⟩
  | cons a items ih =>
    obtain ⟨parts, hparts⟩ := ih
    exact ⟨_, (IsMadeOf.other (h a)).append hparts⟩

theorem forall_mem_usedHelpers (preserve : Bool) (found : Program) :
    ∀ stmt ∈ Lowering.usedHelpers preserve found, ∃ name helper, stmt = Stmt.new
      (.importDecl false (some [.default name]) (Lowering.helperModule helper) none) := by
  intro stmt hstmt
  obtain ⟨⟨helper, name⟩, -, rfl⟩ := List.mem_map.mp hstmt
  exact ⟨name, helper, rfl⟩

theorem isPlainChar_cases {c : Char} (h : isPlainChar c) :
    31 < c.toNat ∧ c.toNat < 128 ∧ c ≠ '"' ∧ c ≠ '\\' ∧ c ≠ '<' := by
  have hbound : c.toNat < 128 := by
    rcases Bool.or_eq_true_iff.mp h with hword | hmark
    · exact Text.toNat_lt_of_isAlphanum hword
    · have hmarks : ∀ d ∈ "./@-_".toList, d.toNat < 128 := by decide
      exact hmarks c (by simpa using hmark)
  have hall : ∀ n < 128, isPlainChar (Char.ofNat n) → 31 < n ∧ Char.ofNat n ≠ '"' ∧
      Char.ofNat n ≠ '\\' ∧ Char.ofNat n ≠ '<' := by
    decide +kernel
  have hchar := hall c.toNat hbound
  rw [Char.ofNat_toNat] at hchar
  obtain ⟨hlow, hrest⟩ := hchar h
  exact ⟨hlow, hbound, hrest⟩

theorem escapeString_of_isPlainChar {c : Char} (h : isPlainChar c) (rest : Text) :
    Literal.escapeString c rest = [c] := by
  obtain ⟨hlow, hhigh, hquote, hslash, hless⟩ := isPlainChar_cases h
  have hline : c ≠ '\n' ∧ c ≠ '\r' := by
    constructor
    · rintro rfl
      exact absurd hlow (by decide)
    · rintro rfl
      exact absurd hlow (by decide)
  have hcode (n : Nat) (hn : n ≤ 31 ∨ 128 ≤ n) : c.toNat ≠ n := by omega
  simp [Literal.escapeString, hquote, hslash, hless, hline.1, hline.2, hcode]

theorem escapedString_of_isPlainChar {text : Text} (h : ∀ c ∈ text, isPlainChar c) :
    Literal.escapedString text = text := by
  fun_induction Literal.escapedString text with
  | case1 => rfl
  | case2 => exact absurd (h '\uFFFD' List.mem_cons_self) (by decide)
  | case3 => exact absurd (h '\uFFFD' List.mem_cons_self) (by decide)
  | case4 c rest hunit ih =>
    obtain ⟨hc, hrest⟩ := List.forall_mem_cons.mp h
    rw [ih hrest, escapeString_of_isPlainChar hc]
    rfl

theorem endsLine_firstLine (program : Program) : EndsLine program.firstLine := by
  rw [Program.firstLine]
  cases program.hashbang with
  | none => exact nofun
  | some line =>
    refine endsLine_iff.mpr (.inr ⟨"#!".toList ++ line.toList, ?_⟩)
    simp

/-- A lowered script is printed in parts, and the comments at its end stand behind them. -/
theorem exists_isMadeOf_text (hlower : Lowering.program preserve found = .ok lowered)
    (hattributes : ∀ declared ∈ Toolchain.standardView.declared found, ¬declared.hasAttributes) :
    ∃ parts lines, lowered.text.toList = lines ++ lowered.lastComments ∧
      IsMadeOf Literal.escapedString lines parts
        ((Toolchain.standardView.kept preserve found).map (·.specifier))
        (Toolchain.standardView.comments preserve found lowered)
        (Toolchain.standardView.helpers preserve found) := by
  obtain ⟨-, front, back, others, hbody, hinterleaves⟩ := Lowering.program_eq_ok hlower
  obtain ⟨left, right, left', right', hkept, -, hfront, hback⟩ := hinterleaves.exists_of_append
  have howns : ∀ stmt ∈ left ++ left', IsOwnPart lowered stmt := by
    rw [← hkept]
    exact fun stmt => isOwnPart_of_mem_keptImports hlower hattributes
  obtain ⟨hownsFront, hownsBack⟩ := List.forall_mem_append.mp howns
  obtain ⟨partsDirectives, hdirectives⟩ := exists_isMadeOf_others lowered.linesOfDirective
    lowered.directives fun _ => Writer.endsLine_line _ _ _
  obtain ⟨partsFront, hfront⟩ := exists_isMadeOf hfront hownsFront
  obtain ⟨partsBack, hback⟩ := exists_isMadeOf hback hownsBack
  obtain ⟨partsHelpers, hhelpers⟩ := exists_isMadeOf_helpers lowered
    (Lowering.usedHelpers preserve found) fun stmt hstmt => by
      obtain ⟨name, helper, h⟩ := forall_mem_usedHelpers preserve found stmt hstmt
      exact ⟨name, _, h⟩
  have hall := (IsMadeOf.other (endsLine_firstLine lowered)).append
    (hdirectives.append (hfront.append (hhelpers.append hback)))
  simp only [List.nil_append, List.append_nil, ← List.filterMap_append, ← List.map_append, ← hkept,
    filterMap_specifier?_keptImports] at hall
  refine ⟨_, _, ?_, hall⟩
  rw [lowered.toList_text, hbody]
  simp

theorem specifier?_new (isType : Bool) (bindings : Option (List ImportBinding)) (source : String)
    (attributes : Option ImportAttributes) :
    (Stmt.new (.importDecl isType bindings source attributes)).specifier? = some source.toList :=
  rfl

theorem helperModule_ne_nil (helper : String) : (Lowering.helperModule helper).toList ≠ [] := by
  have hne : "@oxc-project/runtime/helpers/".toList ≠ [] := by decide
  have happend : (Lowering.helperModule helper).toList =
      "@oxc-project/runtime/helpers/".toList ++ helper.toList := String.toList_append
  rw [happend]
  exact List.append_ne_nil_of_left_ne_nil hne _

theorem nil_notMem_helpers (preserve : Bool) (found : Program) :
    [] ∉ (Lowering.usedHelpers preserve found).filterMap Stmt.specifier? := by
  intro hnil
  obtain ⟨stmt, hstmt, hspecifier⟩ := List.mem_filterMap.mp hnil
  obtain ⟨name, helper, rfl⟩ := forall_mem_usedHelpers preserve found stmt hstmt
  rw [specifier?_new] at hspecifier
  exact helperModule_ne_nil helper (Option.some.inj hspecifier)

theorem isFaithful_standardView : Toolchain.standardView.IsFaithful where
  spell_nil := rfl
  spell_ne_nil _ := escapedString_ne_nil
  newline_notMem_spell := newline_notMem_escapedString
  spell_plain _ := escapedString_of_isPlainChar
  helpers_ne_nil := nil_notMem_helpers
  kept_sublist preserve found :=
    List.monotone_filter_right _ fun declared hneeded => (Bool.and_eq_true_iff.mp hneeded).1
  needed_sublist _ _ := List.Sublist.refl _
  print_eq preserve text found lowered hparse hlower hattributes := by
    obtain ⟨parts, lines, htext, hparts⟩ := exists_isMadeOf_text hlower hattributes
    exact ⟨parts, lines, _, htext, hparts⟩

/-- Tools that do to imports what a view says print a typed script, if they accept it, with the
declarations that are kept and with the imports of the helpers that its lowering uses, and each of the
helpers is found. If no comment stands in front of a declaration on its line, then what is found is
just what the kept declarations name, in their order, if and only if no helper is used and no other line
of what is printed names anything. All declarations that are needed are kept, and none of types. If all
others are needed and their modules are called by letters, digits and a few marks, what they name is what
they are called. -/
theorem specifiers_transpile_eq_iff {tools : Toolchain} {view : tools.View} (hview : view.IsFaithful)
    {preserve : Bool} {text : Text} {found lowered : tools.Program}
    (hparse : tools.parse text = .ok found) (hlower : tools.lower preserve found = .ok lowered)
    (hattributes : ∀ declared ∈ view.declared found, ¬declared.hasAttributes) :
    let named := fun declared : Declared => foundAs view.spell declared.specifier
    ∃ script parts lines ending, tools.transpile preserve text = .ok script ∧
      script = lines ++ ending ∧
      IsMadeOf view.spell lines parts ((view.kept preserve found).map (·.specifier))
        (view.comments preserve found lowered) (view.helpers preserve found) ∧
      (∀ helper ∈ view.helpers preserve found, view.spell helper ∈ specifiers script) ∧
      ((∀ comments ∈ view.comments preserve found lowered, EndsLine comments) →
        (specifiers script = (view.kept preserve found).flatMap named ↔
          view.helpers preserve found = [] ∧ (∀ part ∈ parts, IsSilent part.rest) ∧
            IsSilent ending)) ∧
      (((view.declared found).filter (·.isNeeded preserve)).flatMap named).Sublist
        ((view.kept preserve found).flatMap named) ∧
      ((view.kept preserve found).flatMap named).Sublist
        (((view.declared found).filter (!·.isType)).flatMap named) ∧
      ((∀ declared ∈ view.declared found, !declared.isType → declared.isNeeded preserve ∧
          declared.specifier ≠ [] ∧ ∀ c ∈ declared.specifier, isPlainChar c) →
        (view.kept preserve found).flatMap named =
          ((view.declared found).filter (!·.isType)).map (·.specifier)) := by
  intro named
  obtain ⟨parts, lines, ending, hprint, hparts⟩ :=
    hview.print_eq preserve text found lowered hparse hlower hattributes
  have hhelpers := hview.helpers_ne_nil preserve found
  refine ⟨lines ++ ending, parts, lines, ending, ?transpile, rfl, hparts, fun helper hhelper => ?asked,
    fun hcomments => ?exact, (hview.needed_sublist preserve found).flatMap _,
    (hview.kept_sublist preserve found).flatMap _, hview.flatMap_kept⟩
  case transpile =>
    simp only [Toolchain.transpile, hparse, Bind.bind, Except.bind, hlower, hprint]
    rfl
  case asked =>
    have hne : helper ≠ [] := fun hnil => hhelpers (hnil ▸ hhelper)
    exact hparts.mem_specifiers_append hview hhelper hne ending
  case exact =>
    rw [← hparts.specifiers_append_eq_iff hview hcomments hhelpers ending, List.flatMap_map]

theorem parse_standard (text : Text) : Toolchain.standard.parse text = parse true text := rfl

def typedImports : Text :=
  ("import type \x7b T \x7d from './t';\nimport a, \x7b b \x7d from './a';\nimport './b';\n" ++
    "import \x7b type U \x7d from './u';\nimport c from './c';\nlet n: T = b;\n").toList

theorem specifiers_transpile_eq_iff_typedImports :
    ∃ found script ending, Toolchain.standard.parse typedImports = .ok found ∧
      Toolchain.standard.transpile false typedImports = .ok script ∧
      Toolchain.standardView.helpers false found = [] ∧ ending <:+ script ∧ IsSilent ending ∧
      specifiers script = ["./a".toList, "./b".toList] := by
  have hrun : (match parse true typedImports with
      | .error _ => false
      | .ok found =>
        match Lowering.program false found with
        | .error _ => false
        | .ok lowered => decide (
            (∀ declared ∈ Toolchain.standardView.declared found, ¬declared.hasAttributes) ∧
            (∀ comments ∈ Toolchain.standardView.comments false found lowered, EndsLine comments) ∧
            (Toolchain.standardView.kept false found).flatMap (fun declared =>
              foundAs Toolchain.standardView.spell declared.specifier) =
                ["./a".toList, "./b".toList])) = true := by
    decide +kernel
  have hprinted : (match Toolchain.standard.transpile false typedImports with
      | .error _ => false
      | .ok script => decide (specifiers script = ["./a".toList, "./b".toList])) = true := by
    decide +kernel
  cases hparse : parse true typedImports with
  | error failure => simp [hparse] at hrun
  | ok found =>
    cases hlower : Lowering.program false found with
    | error failure => simp [hparse, hlower] at hrun
    | ok lowered =>
      simp only [hparse, hlower, decide_eq_true_eq] at hrun
      obtain ⟨hattributes, hcomments, hkept⟩ := hrun
      have hread := (parse_standard typedImports).trans hparse
      obtain ⟨script, parts, lines, ending, htranspile, hscript, -, -, hexact, -⟩ :=
        specifiers_transpile_eq_iff isFaithful_standardView hread hlower hattributes
      simp only [htranspile, decide_eq_true_eq] at hprinted
      obtain ⟨hhelpers, -, hending⟩ := (hexact hcomments).mp (hprinted.trans hkept.symm)
      exact ⟨found, script, ending, hread, htranspile, hhelpers, ⟨lines, hscript.symm⟩, hending,
        hprinted⟩

def asyncFunction : Text := "async function f() \x7b await g(); \x7d".toList

/-- What is found in a typed script need not be imported in it. -/
theorem lower_not_exact :
    ¬∀ text found script, parse true text = .ok found →
      (∀ declared ∈ Toolchain.standardView.declared found, ¬declared.hasAttributes) →
      lower true text = .ok script →
        specifiers script =
          ((Toolchain.standardView.declared found).filter (!·.isType)).map (·.specifier) := by
  intro hexact
  have hrun : (match parse true asyncFunction, lower true asyncFunction with
      | .ok found, .ok script => decide (Toolchain.standardView.declared found = [] ∧
          specifiers script = [(Lowering.helperModule "asyncToGenerator").toList])
      | _, _ => false) = true := by decide +kernel
  cases hparse : parse true asyncFunction with
  | error failure => simp [hparse] at hrun
  | ok found =>
    cases hlower : lower true asyncFunction with
    | error failure => simp [hparse, hlower] at hrun
    | ok script =>
      simp only [hparse, hlower, decide_eq_true_eq] at hrun
      obtain ⟨hdeclared, hfound⟩ := hrun
      have hattributes : ∀ declared ∈ Toolchain.standardView.declared found, ¬declared.hasAttributes := by
        rw [hdeclared]
        exact nofun
      have hscript := hexact asyncFunction found script hparse hattributes hlower
      rw [hfound, hdeclared] at hscript
      cases hscript

end ComponentBundle.Script
