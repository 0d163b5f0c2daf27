import DetectionRule.Proofs.Text.Escaping
import DetectionRule.Rule.Document
import DetectionRule.Vocabulary.Basic
import Mathlib.Algebra.Order.BigOperators.Group.List
import Mathlib.Algebra.Order.Group.Nat

/-!
# One rule in two modes

A rendered rule is made up of parts, of which some are text of the format and the others texts that
were given for the rule. The format has no `&` in it, and a given text is the shorter in verbatim
mode where it has markup. So reading the entities of the escaped rule back gives the verbatim rule
(`unescape_render`), and the two are the same only where no given text has markup
(`render_verbatim_eq_escaped_iff`): no difference makes up for another.
-/

namespace DetectionRule

open Markup

inductive Part
  | format (s : String)
  | given (s : String)

namespace Part

def write (mode : TextMode) : Part → List Char
  | format s => s.toList
  | given s => (mode.text s).toList

variable {parts : List Part}

theorem unescapeChars_flatMap_write (h : ∀ s, .format s ∈ parts → '&' ∉ s.toList) :
    unescapeChars (parts.flatMap (write .escaped)) = parts.flatMap (write .verbatim) := by
  induction parts with
  | nil => rfl
  | cons part parts ih =>
    have hrest := ih fun s hs => h s (List.mem_cons_of_mem _ hs)
    rw [List.flatMap_cons, List.flatMap_cons]
    cases part with
    | format s =>
      have hs : '&' ∉ s.toList := h s List.mem_cons_self
      rw [write, unescapeChars_append hs, hrest, write]
    | given s =>
      have hs : write .escaped (given s) = escapeChars s.toList := toList_escape s
      rw [hs, unescapeChars_escapeChars_append, hrest]
      rfl

theorem length_write_le (part : Part) :
    (part.write .verbatim).length ≤ (part.write .escaped).length := by
  cases part with
  | format s => exact Nat.le_refl _
  | given s => exact TextMode.length_verbatim_le_escaped s

/-- One given text with markup is enough: it makes the escaped whole the longer one. -/
theorem flatMap_write_eq_iff :
    parts.flatMap (write .verbatim) = parts.flatMap (write .escaped) ↔
      ∀ s, .given s ∈ parts → occursIn s = false := by
  constructor
  · intro h s hs
    rw [← Bool.not_eq_true]
    intro hmarkup
    have hlonger : (parts.map fun part => (part.write .verbatim).length).sum
        < (parts.map fun part => (part.write .escaped).length).sum := by
      apply List.sum_lt_sum
      · exact fun part _ => part.length_write_le
      · exact ⟨.given s, hs, TextMode.length_verbatim_lt_escaped hmarkup⟩
    rw [← List.length_flatMap, ← List.length_flatMap, h] at hlonger
    exact Nat.lt_irrefl _ hlonger
  · intro h
    apply List.flatMap_congr
    intro part hpart
    cases part with
    | format s => rfl
    | given s => exact congrArg String.toList (TextMode.verbatim_eq_escaped_iff.2 (h s hpart))

end Part

/-! ### The parts of an element -/

namespace Element

def attributeParts (entry : Attribute × String) : List Part :=
  [.format (" " ++ entry.1.text ++ "=\""), .given entry.2, .format "\""]

def parts (element : Element) : List Part :=
  .format ("    <" ++ element.tag.text) :: element.attributes.flatMap attributeParts
    ++ [.format ">", .given element.value, .format ("</" ++ element.tag.text ++ ">")]

theorem toList_renderAttribute (mode : TextMode) (entry : Attribute × String) :
    (renderAttribute mode entry).toList = (attributeParts entry).flatMap (Part.write mode) := by
  unfold renderAttribute
  simp [attributeParts, Part.write]

theorem toList_render_eq_parts (mode : TextMode) (element : Element) :
    (element.render mode).toList = element.parts.flatMap (Part.write mode) := by
  unfold render
  simp [parts, Part.write, String.toList_join, List.flatMap_map, List.flatMap_assoc,
    toList_renderAttribute]

theorem given_mem_parts {element : Element} {s : String} :
    .given s ∈ element.parts ↔ s = element.value ∨ ∃ attr, (attr, s) ∈ element.attributes := by
  simp [parts, attributeParts, or_comm, eq_comm]

theorem ampersand_not_mem_format {element : Element} {s : String}
    (h : .format s ∈ element.parts) : '&' ∉ s.toList := by
  have htag : '&' ∉ element.tag.text.toList := by cases element.tag <;> decide
  have hattr : ∀ attr : Attribute, '&' ∉ attr.text.toList := by
    intro attr
    cases attr <;> decide
  simp only [parts, attributeParts, List.cons_append, List.mem_cons, List.mem_append,
    List.mem_flatMap, Part.format.injEq, reduceCtorEq, List.not_mem_nil, or_false, false_or] at h
  rcases h with rfl | ⟨entry, -, rfl | rfl⟩ | rfl | rfl
  · simpa using htag
  · simpa using hattr entry.1
  · decide
  · decide
  · simpa using htag

end Element

namespace Element

def shown (mode : TextMode) (element : Element) : Element where
  tag := element.tag
  attributes := element.attributes.map fun entry => (entry.1, mode.text entry.2)
  value := mode.text element.value

/-- The texts of `shown` stand in the rendered element as they are. -/
theorem render_eq_render_shown (mode : TextMode) (element : Element) :
    element.render mode = (element.shown mode).render .verbatim := by
  have hentries : element.attributes.map (renderAttribute mode)
      = (element.shown mode).attributes.map (renderAttribute .verbatim) := by
    rw [shown, List.map_map]
    rfl
  unfold render
  rw [hentries]
  rfl

theorem lookup_shown (mode : TextMode) (element : Element) (attr : Attribute) :
    (element.shown mode).attributes.lookup attr
      = (element.attributes.lookup attr).map mode.text := by
  have hmap : ∀ entries : List (Attribute × String),
      (entries.map fun entry => (entry.1, mode.text entry.2)).lookup attr
        = (entries.lookup attr).map mode.text := by
    intro entries
    induction entries with
    | nil => rfl
    | cons entry entries ih =>
      rw [List.map_cons, List.lookup_cons, List.lookup_cons, ih]
      cases attr == entry.1 <;> rfl
  exact hmap element.attributes

end Element

namespace Condition

/-- The line of the rendered rule that shows the condition. -/
def line (mode : TextMode) (condition : Condition) : String :=
  (Element.ofCondition condition).render mode

/-- The attributes on that line, each with its text as it stands there. -/
def written (mode : TextMode) (condition : Condition) : List (Attribute × String) :=
  ((Element.ofCondition condition).shown mode).attributes

theorem line_eq (mode : TextMode) (condition : Condition) :
    condition.line mode = "    <" ++ condition.tag.text
      ++ String.join ((condition.written mode).map fun entry =>
          " " ++ entry.1.text ++ "=\"" ++ entry.2 ++ "\"")
      ++ ">" ++ mode.text condition.value ++ "</" ++ condition.tag.text ++ ">" := by
  rw [line, Element.render_eq_render_shown]
  rfl

end Condition

/-! ### The parts of a rule -/

theorem Header.ampersand_not_mem_render (header : Header) : '&' ∉ header.render.toList := by
  have hinteger : ∀ n : Int, '&' ∉ (Text.Decimal.integer n).toList := fun n =>
    not_mem_of_escapeChars_eq_self (Text.Decimal.escapeChars_integer n) (by decide)
  have hcount : ∀ (name : String) (count : Option Nat), '&' ∉ name.toList →
      '&' ∉ (renderCount name count).toList := by
    intro name count hname
    cases count with
    | none => exact List.not_mem_nil
    | some count =>
      have hnatural : '&' ∉ (Text.Decimal.natural count).toList :=
        not_mem_of_escapeChars_eq_self (Text.Decimal.escapeChars_natural count) (by decide)
      simp [renderCount, hname, hnatural]
  unfold render
  simp [hinteger, hcount]

namespace Rule

def lineParts : List Element → List Part
  | [] => []
  | [element] => element.parts
  | element :: next :: elements => element.parts ++ .format "\n" :: lineParts (next :: elements)

def parts (header : Header) (elements : List Element) : List Part :=
  .format (header.render ++ "\n") :: lineParts elements ++ [.format "\n</rule>"]

variable {header : Header} {elements : List Element} {mode : TextMode} {s : String}

theorem toList_intercalate_eq_parts :
    ("\n".intercalate (elements.map (Element.render mode))).toList
      = (lineParts elements).flatMap (Part.write mode) := by
  induction elements with
  | nil => rfl
  | cons element elements ih =>
    cases elements with
    | nil => simpa [lineParts] using element.toList_render_eq_parts mode
    | cons next elements =>
      rw [List.map_cons] at ih
      rw [List.map_cons, List.map_cons, String.intercalate_cons_cons, String.toList_append,
        String.toList_append, ih, Element.toList_render_eq_parts, lineParts]
      simp [Part.write]

theorem mem_lineParts {part : Part} (h : part ∈ lineParts elements) :
    part = .format "\n" ∨ ∃ element ∈ elements, part ∈ element.parts := by
  induction elements with
  | nil => cases h
  | cons element elements ih =>
    cases elements with
    | nil => exact .inr ⟨element, List.mem_cons_self, h⟩
    | cons next elements =>
      rw [lineParts, List.mem_append, List.mem_cons] at h
      rcases h with h | h | h
      · exact .inr ⟨element, List.mem_cons_self, h⟩
      · exact .inl h
      · exact (ih h).imp_right fun ⟨other, ho, hpart⟩ =>
          ⟨other, List.mem_cons_of_mem _ ho, hpart⟩

theorem mem_lineParts_of_mem {element : Element} {part : Part} (he : element ∈ elements)
    (h : part ∈ element.parts) : part ∈ lineParts elements := by
  induction elements with
  | nil => cases he
  | cons first elements ih =>
    cases elements with
    | nil =>
      rw [List.mem_singleton] at he
      exact he ▸ h
    | cons next elements =>
      rw [lineParts, List.mem_append, List.mem_cons]
      rcases List.mem_cons.1 he with rfl | he
      · exact .inl h
      · exact .inr (.inr (ih he))

theorem given_mem_parts :
    .given s ∈ parts header elements ↔ ∃ element ∈ elements, .given s ∈ element.parts := by
  constructor
  · intro h
    rw [parts, List.mem_append, List.mem_cons, List.mem_singleton] at h
    rcases h with (h | h) | h
    · cases h
    · exact (mem_lineParts h).resolve_left nofun
    · cases h
  · rintro ⟨element, he, h⟩
    exact List.mem_append_left _ (List.mem_cons_of_mem _ (mem_lineParts_of_mem he h))

theorem ampersand_not_mem_format (h : .format s ∈ parts header elements) : '&' ∉ s.toList := by
  rw [parts, List.mem_append, List.mem_cons, List.mem_singleton, Part.format.injEq,
    Part.format.injEq] at h
  rcases h with (rfl | h) | rfl
  · simpa using header.ampersand_not_mem_render
  · rcases mem_lineParts h with h | ⟨element, -, h⟩
    · cases h
      decide
    · exact Element.ampersand_not_mem_format h
  · decide

end Rule

variable {mode : TextMode} {header : Header} {conditions : List Condition}

theorem toList_render_eq_parts :
    (render mode header conditions).toList
      = (Rule.parts header (conditions.map Element.ofCondition)).flatMap (Part.write mode) := by
  have hlines : conditions.map (fun condition => (Element.ofCondition condition).render mode)
      = (conditions.map Element.ofCondition).map (Element.render mode) := by
    rw [List.map_map]
    rfl
  unfold render
  rw [hlines, String.toList_append, String.toList_append, Rule.toList_intercalate_eq_parts]
  simp [Rule.parts, Part.write]

theorem render_verbatim_eq_escaped_iff :
    render .verbatim header conditions = render .escaped header conditions ↔
      ∀ condition ∈ conditions, occursIn (Element.ofCondition condition).value = false ∧
        ∀ entry ∈ (Element.ofCondition condition).attributes, occursIn entry.2 = false := by
  rw [← String.toList_inj, toList_render_eq_parts, toList_render_eq_parts,
    Part.flatMap_write_eq_iff]
  constructor
  · intro h condition hc
    have hgiven : ∀ s, .given s ∈ (Element.ofCondition condition).parts → occursIn s = false :=
      fun s hs => h s (Rule.given_mem_parts.2 ⟨_, List.mem_map_of_mem hc, hs⟩)
    refine ⟨hgiven _ (Element.given_mem_parts.2 (.inl rfl)), ?_⟩
    intro entry he
    exact hgiven _ (Element.given_mem_parts.2 (.inr ⟨entry.1, he⟩))
  · intro h s hs
    obtain ⟨element, he, hs⟩ := Rule.given_mem_parts.1 hs
    obtain ⟨condition, hc, rfl⟩ := List.mem_map.1 he
    rcases Element.given_mem_parts.1 hs with rfl | ⟨attr, hattr⟩
    · exact (h condition hc).1
    · exact (h condition hc).2 _ hattr

theorem unescape_render (header : Header) (conditions : List Condition) :
    unescape (render .escaped header conditions) = render .verbatim header conditions := by
  apply String.toList_injective
  rw [unescape, String.toList_ofList, toList_render_eq_parts, toList_render_eq_parts]
  exact Part.unescapeChars_flatMap_write fun _ => Rule.ampersand_not_mem_format

end DetectionRule
