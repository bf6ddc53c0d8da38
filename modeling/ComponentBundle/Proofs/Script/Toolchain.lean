import ComponentBundle.Proofs.Import.Line
import ComponentBundle.Script.Toolchain
import Mathlib.Data.List.Perm.Basic

/-!
# What tools do to imports

The tools that take types out of scripts are known here by what becomes of imports alone. Of the import
declarations of a script some are kept, each printed from a line of its own with its module between
double quotes, and a lowering may bring imports of its own helpers. All else that is printed ends its
lines. What is found in a printed script then comes from these imports, but for what the rest of it
names.
-/
namespace ComponentBundle.Script

open Import

def IsBare (text : Text) : Prop := ∀ c ∈ text, ¬isQuote c ∧ c ≠ '\n'

theorem isBare_append {front rest : Text} : IsBare (front ++ rest) ↔ IsBare front ∧ IsBare rest :=
  List.forall_mem_append

/-- The text is made of whole lines. -/
def EndsLine (text : Text) : Prop := ∀ c ∈ text.getLast?, c = '\n'

instance (text : Text) : Decidable (EndsLine text) :=
  Option.decidableForallMem text.getLast?

theorem endsLine_iff {text : Text} : EndsLine text ↔ text = [] ∨ ∃ front, text = front ++ ['\n'] := by
  rcases List.eq_nil_or_concat text with rfl | ⟨front, c, rfl⟩ <;> simp [EndsLine]

theorem endsLine_append_newline (front : Text) : EndsLine (front ++ ['\n']) :=
  endsLine_iff.mpr (.inr ⟨front, rfl⟩)

theorem specifiers_append_of_endsLine {front : Text} (h : EndsLine front) (rest : Text) :
    specifiers (front ++ rest) = specifiers front ++ specifiers rest := by
  have hnil : specifiers [] = [] := rfl
  rcases endsLine_iff.mp h with rfl | ⟨front, rfl⟩
  · rfl
  · rw [List.append_assoc, List.singleton_append, specifiers_append_newline,
      specifiers_append_newline, hnil, List.append_nil]

theorem specifiers_flatMap_of_endsLine {α : Type} {text : α → Text} {items : List α}
    (h : ∀ a ∈ items, EndsLine (text a)) (rest : Text) :
    specifiers (items.flatMap text ++ rest) =
      items.flatMap (fun a => specifiers (text a)) ++ specifiers rest := by
  induction items with
  | nil => rfl
  | cons a items ih =>
    obtain ⟨ha, hitems⟩ := List.forall_mem_cons.mp h
    rw [List.flatMap_cons, List.append_assoc, specifiers_append_of_endsLine ha, ih hitems,
      List.flatMap_cons, List.append_assoc]

/-- Whether a character stands in strings as it is. -/
def isPlainChar (c : Char) : Bool := c.isAlphanum || "./@-_".toList.contains c

/-- A name that an import declaration binds. -/
structure Bound where
  /-- Whether it is marked as the name of a type. -/
  isType : Bool
  isUsed : Bool
deriving DecidableEq

/-- An import declaration of a typed script. -/
structure Declared where
  specifier : Text
  /-- Whether all of it is an import of types. -/
  isType : Bool
  names : List Bound
  hasAttributes : Bool
deriving DecidableEq

/-- Whether the declaration has to stay: it binds nothing, or a name that is not marked as a type and,
unless values are preserved, is used as a value. -/
def Declared.isNeeded (preserve : Bool) (declared : Declared) : Bool :=
  !declared.isType && (declared.names.isEmpty ||
    declared.names.any fun name => !name.isType && (preserve || name.isUsed))

def importLine (spell : Text → Text) (clause specifier : Text) : Text :=
  keyword ++ ' ' :: clause ++ '"' :: spell specifier ++ ['"', ';'] ++ ['\n']

inductive Part where
  | own (comments clause specifier : Text)
  /-- An import of a helper. -/
  | helper (clause specifier : Text)
  | other (text : Text)

namespace Part

variable (spell : Text → Text)

def text : Part → Text
  | own comments clause specifier => comments ++ importLine spell clause specifier
  | helper clause specifier => importLine spell clause specifier
  | other text => text

def own? : Part → Option Text
  | own _ _ specifier => some specifier
  | _ => none

def comments? : Part → Option Text
  | own comments _ _ => some comments
  | _ => none

def helper? : Part → Option Text
  | helper _ specifier => some specifier
  | _ => none

/-- What the part has besides an import. -/
def rest : Part → Text
  | own comments _ _ => comments
  | helper .. => []
  | other text => text

def IsWhole : Part → Prop
  | own _ clause _ | helper clause _ => IsBare clause
  | other text => EndsLine text

end Part

/-- The text is made of the parts. They have import declarations of the script from the given modules,
behind the given comments, and imports of the given helpers, in this order. -/
structure IsMadeOf (spell : Text → Text) (text : Text) (parts : List Part)
    (specifiers comments helpers : List Text) : Prop where
  text_eq : text = parts.flatMap (Part.text spell)
  own_eq : parts.filterMap Part.own? = specifiers
  comments_eq : parts.filterMap Part.comments? = comments
  helper_eq : parts.filterMap Part.helper? = helpers
  isWhole : ∀ part ∈ parts, part.IsWhole

namespace IsMadeOf

variable {spell : Text → Text} {text text' : Text} {parts parts' : List Part}
  {specifiers comments helpers specifiers' comments' helpers' : List Text}

theorem append (h : IsMadeOf spell text parts specifiers comments helpers)
    (h' : IsMadeOf spell text' parts' specifiers' comments' helpers') :
    IsMadeOf spell (text ++ text') (parts ++ parts') (specifiers ++ specifiers')
      (comments ++ comments') (helpers ++ helpers') where
  text_eq := by rw [h.text_eq, h'.text_eq, List.flatMap_append]
  own_eq := by rw [List.filterMap_append, h.own_eq, h'.own_eq]
  comments_eq := by rw [List.filterMap_append, h.comments_eq, h'.comments_eq]
  helper_eq := by rw [List.filterMap_append, h.helper_eq, h'.helper_eq]
  isWhole := List.forall_mem_append.mpr ⟨h.isWhole, h'.isWhole⟩

theorem nil : IsMadeOf spell [] [] [] [] [] := ⟨rfl, rfl, rfl, rfl, nofun⟩

theorem other {text : Text} (h : EndsLine text) : IsMadeOf spell text [.other text] [] [] [] :=
  ⟨by simp [Part.text], rfl, rfl, rfl, List.forall_mem_singleton.mpr h⟩

theorem own (comments specifier : Text) {clause : Text} (h : IsBare clause) :
    IsMadeOf spell (comments ++ importLine spell clause specifier) [.own comments clause specifier]
      [specifier] [comments] [] :=
  ⟨by simp [Part.text], rfl, rfl, rfl, List.forall_mem_singleton.mpr h⟩

theorem helper (specifier : Text) {clause : Text} (h : IsBare clause) :
    IsMadeOf spell (importLine spell clause specifier) [.helper clause specifier] [] [] [specifier] :=
  ⟨by simp [Part.text], rfl, rfl, rfl, List.forall_mem_singleton.mpr h⟩

end IsMadeOf

/-- What there is to know of the tools as far as imports go. -/
structure Toolchain.View (tools : Toolchain) where
  /-- The import declarations of a script. -/
  declared : tools.Program → List Declared
  /-- Those that its lowering keeps. -/
  kept : (preserve : Bool) → tools.Program → List Declared
  /-- The modules of the helpers that its lowering uses. -/
  helpers : (preserve : Bool) → tools.Program → List Text
  /-- What stands in front of each of the kept declarations when the lowered script is printed. -/
  comments : (preserve : Bool) → (found lowered : tools.Program) → List Text
  /-- The text of a string between double quotes. -/
  spell : Text → Text

/-- The tools do to imports what the view says. -/
structure Toolchain.View.IsFaithful {tools : Toolchain} (view : tools.View) : Prop where
  spell_nil : view.spell [] = []
  spell_ne_nil : ∀ text ≠ [], view.spell text ≠ []
  newline_notMem_spell : ∀ text, '\n' ∉ view.spell text
  spell_plain : ∀ text, (∀ c ∈ text, isPlainChar c) → view.spell text = text
  helpers_ne_nil : ∀ preserve found, [] ∉ view.helpers preserve found
  kept_sublist : ∀ preserve found,
    (view.kept preserve found).Sublist ((view.declared found).filter (!·.isType))
  needed_sublist : ∀ preserve found,
    ((view.declared found).filter (·.isNeeded preserve)).Sublist (view.kept preserve found)
  print_eq : ∀ preserve text found lowered, tools.parse text = .ok found →
    tools.lower preserve found = .ok lowered →
    (∀ declared ∈ view.declared found, ¬declared.hasAttributes) →
      ∃ parts lines ending, tools.print lowered = lines ++ ending ∧
        IsMadeOf view.spell lines parts ((view.kept preserve found).map (·.specifier))
          (view.comments preserve found lowered) (view.helpers preserve found)

namespace Toolchain.View.IsFaithful

variable {tools : Toolchain} {view : tools.View} (hview : view.IsFaithful)
include hview

/-- If all declarations but those of types have to stay, just these are kept. -/
theorem kept_eq {preserve : Bool} {found : tools.Program}
    (h : ∀ declared ∈ view.declared found, !declared.isType → declared.isNeeded preserve) :
    view.kept preserve found = (view.declared found).filter (!·.isType) := by
  have hneeded : (view.declared found).filter (·.isNeeded preserve) =
      (view.declared found).filter (!·.isType) := by
    refine List.filter_congr fun declared hdeclared => ?_
    cases htype : declared.isType with
    | true => simp [Declared.isNeeded, htype]
    | false => simpa [htype] using h declared hdeclared
  have hsublist := hview.needed_sublist preserve found
  rw [hneeded] at hsublist
  exact (hview.kept_sublist preserve found).antisymm hsublist

end Toolchain.View.IsFaithful

/-- What is found of a module that is called in a line: nothing if it is called by no text. -/
def foundAs (spell : Text → Text) (specifier : Text) : List Text :=
  if specifier = [] then [] else [spell specifier]

theorem foundAs_of_ne_nil (spell : Text → Text) {specifier : Text} (h : specifier ≠ []) :
    foundAs spell specifier = [spell specifier] :=
  if_neg h

section

variable {tools : Toolchain} {view : tools.View} (hview : view.IsFaithful)
include hview

theorem betweenQuotes?_of_isBare {clause : Text} (hclause : IsBare clause) (specifier : Text) :
    (betweenQuotes? (clause ++ '"' :: view.spell specifier ++ ['"', ';'])).toList =
      foundAs view.spell specifier := by
  rw [foundAs]
  split
  · rename_i hspecifier
    have hquote : '"' :: (view.spell specifier ++ ['"', ';']) = '"' :: '"' :: [';'] := by
      rw [hspecifier, hview.spell_nil]
      rfl
    have hskip : ∀ c ∈ clause, (!isQuote c) = true := fun c hc => by simpa using (hclause c hc).1
    rw [List.append_assoc, List.cons_append, hquote, betweenQuotes?,
      List.dropWhile_append_of_pos hskip]
    rfl
  · rename_i hspecifier
    have hbetween : betweenQuotes? (clause ++ '"' :: view.spell specifier ++ ['"', ';']) =
        some (view.spell specifier) := by
      refine betweenQuotes?_eq_some_iff.mpr ⟨clause, [';'], '"', '"', rfl, fun c hc => ?_, rfl, rfl,
        hview.spell_ne_nil specifier hspecifier⟩
      rcases List.mem_append.mp hc with hc | hc
      · exact (hclause c hc).1
      · obtain rfl := List.mem_singleton.mp hc
        decide
    rw [hbetween]
    rfl

/-- The line of an import names its module. -/
theorem specifiers_importLine {clause : Text} (hclause : IsBare clause) (specifier : Text) :
    specifiers (importLine view.spell clause specifier) = foundAs view.spell specifier := by
  have hnil : specifiers [] = [] := rfl
  have hline : '\n' ∉ keyword ++ ' ' :: clause ++ '"' :: view.spell specifier ++ ['"', ';'] := by
    have hkeyword : '\n' ∉ keyword := by decide
    have hspell := hview.newline_notMem_spell specifier
    simpa [hkeyword, hspell] using fun h => (hclause _ h).2 rfl
  rw [importLine, specifiers_append_newline, hnil, List.append_nil, specifiers_of_notMem hline,
    List.append_assoc, List.append_assoc, List.cons_append, ofLine?_keyword_append,
    ← List.append_assoc]
  exact betweenQuotes?_of_isBare hview hclause specifier

omit hview in
theorem endsLine_text {spell : Text → Text} {part : Part} (h : part.IsWhole) :
    EndsLine (part.text spell) := by
  cases part with
  | own comments clause specifier =>
    rw [Part.text, importLine, ← List.append_assoc]
    exact endsLine_append_newline _
  | helper clause specifier => exact endsLine_append_newline _
  | other text => exact h

/-- A part names what it has besides an import, and the module of its import. -/
theorem specifiers_text {part : Part} (h : part.IsWhole)
    (hcomments : ∀ comments ∈ part.comments?, EndsLine comments) :
    specifiers (part.text view.spell) = specifiers part.rest ++
      (part.helper?.toList.flatMap (foundAs view.spell) ++
        part.own?.toList.flatMap (foundAs view.spell)) := by
  have hnil : specifiers [] = [] := rfl
  cases part with
  | own comments clause specifier =>
    rw [Part.text, specifiers_append_of_endsLine (hcomments comments rfl),
      specifiers_importLine hview h]
    simp [Part.rest, Part.helper?, Part.own?]
  | helper clause specifier =>
    rw [Part.text, specifiers_importLine hview h]
    simp [Part.rest, Part.helper?, Part.own?, hnil]
  | other text => simp [Part.text, Part.rest, Part.helper?, Part.own?]

end

/-- What the items give is their own share alone, if and only if nothing is given besides. The number of
what is given tells. -/
theorem flatMap_append_eq_iff {α β : Type} {f extra own : α → List β} {items : List α} {back : List β}
    (h : ∀ a ∈ items, f a = extra a ++ own a) :
    items.flatMap f ++ back = items.flatMap own ↔ (∀ a ∈ items, extra a = []) ∧ back = [] := by
  have hall : items.flatMap f = items.flatMap fun a => extra a ++ own a :=
    congrArg List.flatten (List.map_congr_left h)
  rw [hall]
  constructor
  · intro heq
    have hcount := congrArg List.length heq
    rw [List.length_append, ← (List.flatMap_append_perm items extra own).length_eq,
      List.length_append] at hcount
    have hextra : (items.flatMap extra).length = 0 := by omega
    have hback : back.length = 0 := by omega
    exact ⟨List.flatMap_eq_nil_iff.mp (List.length_eq_zero_iff.mp hextra),
      List.length_eq_zero_iff.mp hback⟩
  · rintro ⟨hextra, rfl⟩
    rw [List.append_nil]
    exact congrArg List.flatten (List.map_congr_left fun a ha => by rw [hextra a ha, List.nil_append])

namespace IsMadeOf

variable {tools : Toolchain} {view : tools.View} (hview : view.IsFaithful) {text : Text}
  {parts : List Part} {modules comments helpers : List Text}

theorem specifiers_append {spell : Text → Text} (h : IsMadeOf spell text parts modules comments helpers)
    (ending : Text) : specifiers (text ++ ending) =
      parts.flatMap (fun part => specifiers (part.text spell)) ++ specifiers ending := by
  rw [h.text_eq]
  exact specifiers_flatMap_of_endsLine (fun part hpart => endsLine_text (h.isWhole part hpart)) ending

include hview

variable (h : IsMadeOf view.spell text parts modules comments helpers)
include h

/-- Each of the helpers is found. -/
theorem mem_specifiers_append {helper : Text} (hmem : helper ∈ helpers) (hne : helper ≠ [])
    (ending : Text) : view.spell helper ∈ specifiers (text ++ ending) := by
  rw [← h.helper_eq] at hmem
  obtain ⟨part, hpart, hsome⟩ := List.mem_filterMap.mp hmem
  rw [h.specifiers_append]
  refine List.mem_append_left _ (List.mem_flatMap.mpr ⟨part, hpart, ?_⟩)
  cases part with
  | helper clause specifier =>
    obtain rfl := Option.some.inj hsome
    rw [Part.text, specifiers_importLine hview (h.isWhole _ hpart), foundAs_of_ne_nil _ hne]
    exact List.mem_singleton_self _
  | _ => cases hsome

/-- The modules of the declarations alone are found, if and only if there are no helpers and nothing else
names anything. -/
theorem specifiers_append_eq_iff (hcomments : ∀ lead ∈ comments, EndsLine lead)
    (hhelpers : [] ∉ helpers) (ending : Text) :
    specifiers (text ++ ending) = modules.flatMap (foundAs view.spell) ↔
      helpers = [] ∧ (∀ part ∈ parts, IsSilent part.rest) ∧ IsSilent ending := by
  have hmodules : modules.flatMap (foundAs view.spell) =
      parts.flatMap fun part => part.own?.toList.flatMap (foundAs view.spell) := by
    rw [← h.own_eq, List.filterMap_eq_flatMap_toList, List.flatMap_assoc]
  have htext (part : Part) (hpart : part ∈ parts) :=
    specifiers_text hview (h.isWhole part hpart) fun lead hsome => hcomments lead <|
      h.comments_eq ▸ List.mem_filterMap.mpr ⟨part, hpart, hsome⟩
  have hnone : (∀ part ∈ parts, part.helper?.toList.flatMap (foundAs view.spell) = []) ↔
      helpers = [] := by
    rw [← h.helper_eq, List.filterMap_eq_nil_iff]
    refine forall₂_congr fun part hpart => ?_
    cases hsome : part.helper? with
    | none => simp
    | some helper =>
      have hmem : helper ∈ helpers := h.helper_eq ▸ List.mem_filterMap.mpr ⟨part, hpart, hsome⟩
      have hne : helper ≠ [] := fun hnil => hhelpers (hnil ▸ hmem)
      simp [foundAs_of_ne_nil _ hne]
  rw [hmodules, h.specifiers_append, flatMap_append_eq_iff fun part hpart => by
    rw [htext part hpart, ← List.append_assoc], ← hnone]
  simp only [List.append_eq_nil_iff, specifiers_eq_nil_iff, forall₂_and]
  tauto

end IsMadeOf

/-- If all declarations but those of types have to stay, and their modules are called by letters, digits
and a few marks, what the kept ones name is what they are called. -/
theorem Toolchain.View.IsFaithful.flatMap_kept {tools : Toolchain} {view : tools.View}
    (hview : view.IsFaithful) {preserve : Bool} {found : tools.Program}
    (h : ∀ declared ∈ view.declared found, !declared.isType → declared.isNeeded preserve ∧
      declared.specifier ≠ [] ∧ ∀ c ∈ declared.specifier, isPlainChar c) :
    (view.kept preserve found).flatMap (fun declared => foundAs view.spell declared.specifier) =
      ((view.declared found).filter (!·.isType)).map (·.specifier) := by
  have hkept := hview.kept_eq fun declared hdeclared htype => (h declared hdeclared htype).1
  rw [hkept, List.map_eq_flatMap]
  refine congrArg List.flatten (List.map_congr_left fun declared hdeclared => ?_)
  obtain ⟨hmem, htype⟩ := List.mem_filter.mp hdeclared
  obtain ⟨-, hne, hchars⟩ := h declared hmem htype
  rw [foundAs_of_ne_nil _ hne, hview.spell_plain _ hchars]

end ComponentBundle.Script
