import DetectionRule.Proofs.Rule.Invariant
import DetectionRule.Proofs.Rule.Token
import DetectionRule.Rule.Document
import DetectionRule.Vocabulary.Reader
import Mathlib

/-!
# Reading a rule as it was rendered with entities

`Rule.read?` reads a header and elements from any text or refuses it. It knows where tags begin and
end and how they are named, and of the layout only that there is some text between elements. From
every rule rendered with entities it reads what was rendered (`Rule.read?_render`), so that no value
can pass for markup. Main statement: `escaped_render_decodes`.
-/

namespace DetectionRule

open Text Markup

namespace Header

def countEntries (name : String) : Option Nat → List (String × String)
  | some count => [(name, Text.Decimal.natural count)]
  | none => []

def startTag (header : Header) : StartTag where
  name := "rule"
  entries :=
    [("id", Text.Decimal.integer header.id), ("level", Text.Decimal.integer header.level)]
      ++ countEntries "frequency" header.frequency ++ countEntries "timeframe" header.timeframe

def readCount? : Option String → Option (Option Nat)
  | some text => text.toNat?.map some
  | none => some none

def read? (tag : StartTag) : Option Header := do
  let id ← (tag.entries.lookup "id").bind String.toInt?
  let level ← (tag.entries.lookup "level").bind String.toInt?
  let frequency ← readCount? (tag.entries.lookup "frequency")
  let timeframe ← readCount? (tag.entries.lookup "timeframe")
  if tag.name = "rule" then some { id, level, frequency, timeframe } else none

theorem readCount?_natural (count : Option Nat) :
    readCount? (count.map Text.Decimal.natural) = some count := by
  cases count with
  | none => rfl
  | some count =>
    have hrepr : Text.Decimal.natural count = count.repr := rfl
    rw [Option.map_some, readCount?, hrepr, Nat.toNat?_repr]
    rfl

theorem read?_startTag (header : Header) : read? header.startTag = some header := by
  obtain ⟨id, level, frequency, timeframe⟩ := header
  have hfrequency : (startTag ⟨id, level, frequency, timeframe⟩).entries.lookup "frequency"
      = frequency.map Text.Decimal.natural := by
    cases frequency <;> cases timeframe <;> rfl
  have htimeframe : (startTag ⟨id, level, frequency, timeframe⟩).entries.lookup "timeframe"
      = timeframe.map Text.Decimal.natural := by
    cases frequency <;> cases timeframe <;> rfl
  have hid : (startTag ⟨id, level, frequency, timeframe⟩).entries.lookup "id"
      = some (Text.Decimal.integer id) := rfl
  have hlevel : (startTag ⟨id, level, frequency, timeframe⟩).entries.lookup "level"
      = some (Text.Decimal.integer level) := rfl
  rw [read?, hid, hlevel, hfrequency, htimeframe, readCount?_natural, readCount?_natural,
    Option.bind_some, Option.bind_some, Text.Decimal.integer_eq_repr,
    Text.Decimal.integer_eq_repr, Int.toInt?_repr, Int.toInt?_repr]
  rfl

theorem isName_of_mem_countEntries {name : String} {count : Option Nat} {entry : String × String}
    (hname : IsName name) (h : entry ∈ countEntries name count) : IsName entry.1 := by
  cases count with
  | none => cases h
  | some count =>
    rw [countEntries, List.mem_singleton] at h
    rw [h]
    exact hname

theorem plain_startTag (header : Header) : header.startTag.Plain where
  name := by
    show IsName "rule"
    decide
  keys := by
    intro entry h
    rw [startTag, List.mem_append, List.mem_append] at h
    rcases h with (h | h) | h
    · simp only [List.mem_cons, List.not_mem_nil, or_false] at h
      rcases h with rfl | rfl
      · show IsName "id"
        decide
      · show IsName "level"
        decide
    · exact isName_of_mem_countEntries (by decide) h
    · exact isName_of_mem_countEntries (by decide) h

theorem toList_renderCount (name : String) (count : Option Nat) :
    (renderCount name count).toList = (countEntries name count).flatMap StartTag.writeEntry := by
  cases count with
  | none => rfl
  | some count =>
    simp [renderCount, countEntries, StartTag.writeEntry, Text.Decimal.escapeChars_natural]

theorem toList_render (header : Header) :
    header.render.toList = '<' :: header.startTag.write ++ ['>'] := by
  unfold render
  simp [startTag, StartTag.write, StartTag.writeEntry, toList_renderCount,
    Text.Decimal.escapeChars_integer]

end Header

/-! ### Elements -/

theorem Tag.isName_text (tag : Tag) : IsName tag.text := by
  cases tag <;> decide

theorem Attribute.isName_text (attr : Attribute) : IsName attr.text := by
  cases attr <;> decide

theorem readPairs_text (entries : List (Attribute × String)) :
    readPairs (entries.map fun entry => (entry.1.text, entry.2)) = .ok entries := by
  induction entries with
  | nil => rfl
  | cons entry entries ih =>
    rw [List.map_cons, readPairs, Attribute.read, Attribute.ofText?_text, ih]
    rfl

namespace Element

def startTag (element : Element) : StartTag where
  name := element.tag.text
  entries := element.attributes.map fun entry => (entry.1.text, entry.2)

def startToken (element : Element) : Token where
  markup := element.startTag.write
  text := escapeChars element.value.toList

def endMarkup (name : String) : List Char := '/' :: name.toList

/-- An element from its start tag with the text behind it, and its end tag. -/
def read? (start stop : Token) : Option Element := do
  let startTag ← StartTag.read? start.markup
  let tag ← Tag.ofText? startTag.name
  let attributes ← (readPairs startTag.entries).toOption
  if stop.markup = endMarkup startTag.name then
    some { tag, attributes, value := String.ofList (unescapeChars start.text) }
  else none

theorem plain_startTag (element : Element) : element.startTag.Plain where
  name := element.tag.isName_text
  keys := by
    intro entry h
    obtain ⟨stored, -, rfl⟩ := List.mem_map.1 h
    exact stored.1.isName_text

theorem plain_startToken (element : Element) : element.startToken.Plain where
  markup_lt := StartTag.not_mem_write element.plain_startTag (.inl rfl)
  markup_gt := StartTag.not_mem_write element.plain_startTag (.inr rfl)
  text_lt := not_mem_escapeChars (.inl rfl) element.value.toList

theorem plain_endToken {name : String} {text : List Char} (hname : IsName name) (h : '<' ∉ text) :
    Token.Plain ⟨endMarkup name, text⟩ where
  markup_lt := by simpa [endMarkup] using hname.not_mem (c := '<') (by decide)
  markup_gt := by simpa [endMarkup] using hname.not_mem (c := '>') (by decide)
  text_lt := h

theorem read?_startToken (element : Element) (text : List Char) :
    read? element.startToken ⟨endMarkup element.tag.text, text⟩ = some element := by
  have htag : StartTag.read? element.startToken.markup = some element.startTag :=
    StartTag.read?_write element.plain_startTag
  have hname : Tag.ofText? element.startTag.name = some element.tag := Tag.ofText?_text element.tag
  have hpairs : readPairs element.startTag.entries = .ok element.attributes :=
    readPairs_text element.attributes
  have hvalue : String.ofList (unescapeChars element.startToken.text) = element.value := by
    rw [startToken, unescapeChars_escapeChars, String.ofList_toList]
  rw [read?, htag]
  simp only [Option.bind_eq_bind, Option.bind_some, hname, hpairs, hvalue, Except.toOption]
  exact if_pos rfl

theorem toList_render (element : Element) :
    (element.render .escaped).toList =
      [' ', ' ', ' ', ' '] ++ element.startToken.write
        ++ '<' :: endMarkup element.tag.text ++ ['>'] := by
  unfold render
  simp [startToken, startTag, Token.write, Token.body, StartTag.write, endMarkup,
    TextMode.text, toList_escape, String.toList_join, List.flatMap_map, renderAttribute,
    StartTag.writeEntry]

end Element

/-! ### Rules -/

namespace Rule

def readElements? : List Token → Option (List Element)
  | start :: stop :: rest => do
    let element ← Element.read? start stop
    let elements ← readElements? rest
    return element :: elements
  | [stop] => if stop.markup = Element.endMarkup "rule" then some [] else none
  | [] => none

def readBody? : List Token → Option (Header × List Element)
  | start :: rest => do
    let tag ← StartTag.read? start.markup
    let header ← Header.read? tag
    let elements ← readElements? rest
    return (header, elements)
  | [] => none

def read? (s : String) : Option (Header × List Element) := (readTokens? s.toList).bind readBody?

/-- The text in front of the first element, or of the end tag where there is none. -/
def layout : List Element → List Char
  | [] => ['\n']
  | _ :: _ => ['\n', ' ', ' ', ' ', ' ']

def elementTokens : List Element → List Token
  | [] => [⟨Element.endMarkup "rule", []⟩]
  | element :: elements =>
    element.startToken :: ⟨Element.endMarkup element.tag.text, layout elements⟩
      :: elementTokens elements

/-- A rule without elements has an empty line of its own. -/
def tokens (header : Header) (elements : List Element) : List Token :=
  ⟨header.startTag.write, (if elements = [] then ['\n'] else []) ++ layout elements⟩
    :: elementTokens elements

variable {elements : List Element}

theorem lt_not_mem_layout : '<' ∉ layout elements := by
  cases elements with
  | nil => decide
  | cons element elements => simp [layout]

theorem plain_elementTokens : ∀ token ∈ elementTokens elements, token.Plain := by
  induction elements with
  | nil =>
    intro token h
    rw [elementTokens, List.mem_singleton] at h
    rw [h]
    exact Element.plain_endToken (by decide) (by decide)
  | cons element elements ih =>
    intro token h
    rw [elementTokens, List.mem_cons, List.mem_cons] at h
    rcases h with rfl | rfl | h
    · exact element.plain_startToken
    · exact Element.plain_endToken element.tag.isName_text lt_not_mem_layout
    · exact ih token h

theorem plain_tokens (header : Header) : ∀ token ∈ tokens header elements, token.Plain := by
  intro token h
  rw [tokens, List.mem_cons] at h
  rcases h with rfl | h
  · refine ⟨StartTag.not_mem_write header.plain_startTag (.inl rfl),
      StartTag.not_mem_write header.plain_startTag (.inr rfl), ?_⟩
    show '<' ∉ _ ++ layout elements
    rw [List.mem_append, not_or]
    refine ⟨?_, lt_not_mem_layout⟩
    split <;> decide
  · exact plain_elementTokens token h

theorem readElements?_elementTokens : readElements? (elementTokens elements) = some elements := by
  induction elements with
  | nil => exact if_pos rfl
  | cons element elements ih =>
    rw [elementTokens, readElements?, Element.read?_startToken, ih]
    rfl

theorem readBody?_tokens (header : Header) :
    readBody? (tokens header elements) = some (header, elements) := by
  rw [tokens, readBody?, StartTag.read?_write header.plain_startTag, readElements?_elementTokens]
  simp only [Option.bind_eq_bind, Option.bind_some, Header.read?_startTag]
  rfl

/-- What follows the start tag of the rule or the end tag of an element. -/
def renderRest : List Element → List Char
  | [] => '\n' :: '<' :: Element.endMarkup "rule" ++ ['>']
  | element :: elements => '\n' :: (element.render .escaped).toList ++ renderRest elements

theorem renderRest_eq :
    renderRest elements = layout elements ++ (elementTokens elements).flatMap Token.write := by
  induction elements with
  | nil => rfl
  | cons element elements ih =>
    rw [renderRest, Element.toList_render, ih, elementTokens, List.flatMap_cons, List.flatMap_cons]
    simp [layout, Token.write, Token.body]

theorem toList_intercalate_render (elements : List Element) :
    '\n' :: ("\n".intercalate (elements.map (Element.render .escaped)) ++ "\n</rule>").toList
      = (if elements = [] then ['\n'] else []) ++ renderRest elements := by
  induction elements with
  | nil => rfl
  | cons element elements ih =>
    cases elements with
    | nil => simp [renderRest, Element.endMarkup]
    | cons next elements =>
      simp only [List.map_cons, String.intercalate_cons_cons] at ih ⊢
      simp [renderRest] at ih ⊢
      exact ih

theorem toList_render (header : Header) (conditions : List Condition) :
    (render .escaped header conditions).toList =
      (tokens header (conditions.map Element.ofCondition)).flatMap Token.write := by
  have hmap : conditions.map (fun condition => (Element.ofCondition condition).render .escaped)
      = (conditions.map Element.ofCondition).map (Element.render .escaped) := by
    rw [List.map_map]
    rfl
  have hlines := toList_intercalate_render (conditions.map Element.ofCondition)
  have hfeed : "\n".toList = ['\n'] := rfl
  unfold render
  rw [hmap, String.append_assoc, String.append_assoc, String.toList_append, Header.toList_render,
    String.toList_append, hfeed, List.singleton_append, hlines, renderRest_eq]
  simp [tokens, Token.write, Token.body]

theorem read?_render (header : Header) (conditions : List Condition) :
    read? (render .escaped header conditions)
      = some (header, conditions.map Element.ofCondition) := by
  rw [read?, toList_render, readTokens?_write (plain_tokens header)]
  exact readBody?_tokens header

end Rule

/-- A condition without its handle, and without the attributes that its tag never shows. -/
def Condition.view (condition : Condition) : Element where
  tag := condition.tag
  attributes := if condition.tag.isContentOnly then [] else condition.attributes.entries
  value := condition.value

/-- No stored value is empty, so that none is left out of the rendered element. -/
theorem Element.ofCondition_eq_view {condition : Condition}
    (h : condition.attributes.WellFormed) : Element.ofCondition condition = condition.view := by
  have hall : condition.attributes.entries.filter (fun entry => entry.2 ≠ "")
      = condition.attributes.entries := by
    apply List.filter_eq_self.2
    intro entry he
    exact decide_eq_true (Attributes.ne_of_isUnset_eq_false (h.given entry he)).1
  rw [Element.ofCondition, hall]
  rfl

def Store.views (store : Store) : List Element := store.conditions.map Condition.view

theorem Store.map_ofCondition_eq_views {store : Store} (h : store.Stored) :
    store.conditions.map Element.ofCondition = store.views :=
  List.map_congr_left fun condition hc => Element.ofCondition_eq_view (h condition hc)

theorem escaped_render_decodes :
    (∀ header edits, Rule.read? (render .escaped header (Store.empty.run edits).conditions)
      = some (header, (Store.empty.run edits).views)) ∧
    ∀ header edits other more,
      render .escaped header (Store.empty.run edits).conditions
          = render .escaped other (Store.empty.run more).conditions ↔
        header = other ∧ (Store.empty.run edits).views = (Store.empty.run more).views := by
  have helements : ∀ edits, (Store.empty.run edits).conditions.map Element.ofCondition
      = (Store.empty.run edits).views :=
    fun edits => Store.map_ofCondition_eq_views (Store.stored_empty.run edits)
  have hread : ∀ header edits,
      Rule.read? (render .escaped header (Store.empty.run edits).conditions)
        = some (header, (Store.empty.run edits).views) := by
    intro header edits
    rw [Rule.read?_render, helements]
  refine ⟨hread, ?_⟩
  intro header edits other more
  constructor
  · intro h
    have hboth := congrArg Rule.read? h
    rw [hread, hread, Option.some_inj, Prod.mk.injEq] at hboth
    exact hboth
  · rintro ⟨rfl, hviews⟩
    apply String.toList_injective
    rw [Rule.toList_render, Rule.toList_render, helements, helements, hviews]

end DetectionRule
