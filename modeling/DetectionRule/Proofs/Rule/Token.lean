import DetectionRule.Proofs.Text.Cutting
import DetectionRule.Proofs.Text.Escaping

/-!
# Tags of a document and the text behind them

A document whose texts are escaped has `<` and `>` only around its tags and `"` only around the
values in them. So it is cut at every `<` into tags, each with the text up to the next one
(`readTokens?_write`), and a start tag at its first blank and at every `"` into its name and its
entries (`StartTag.read?_write`).
-/

namespace DetectionRule

open Text Markup

/-- What stands between `<` and `>`, and the text up to the next `<`. -/
structure Token where
  markup : List Char
  text : List Char

namespace Token

/-- A token without its `<`. -/
def body (token : Token) : List Char := token.markup ++ '>' :: token.text

def write (token : Token) : List Char := '<' :: token.body

def readBody? (cs : List Char) : Option Token :=
  match fromFirst (· = '>') cs with
  | [] => none
  | _ :: text => some ⟨before (· = '>') cs, text⟩

structure Plain (token : Token) : Prop where
  markup_lt : '<' ∉ token.markup
  markup_gt : '>' ∉ token.markup
  text_lt : '<' ∉ token.text

theorem readBody?_body {token : Token} (h : '>' ∉ token.markup) :
    readBody? token.body = some token := by
  have hd := divides_at h token.text
  rw [readBody?, body, fromFirst_of_divides hd, before_of_divides hd]

theorem not_mem_body {token : Token} (h : token.Plain) : '<' ∉ token.body := by
  rw [body, List.mem_append, List.mem_cons, not_or, not_or]
  exact ⟨h.markup_lt, by decide, h.text_lt⟩

end Token

def readTokens? (cs : List Char) : Option (List Token) :=
  match pieces '<' cs with
  | [] :: bodies => bodies.mapM Token.readBody?
  | _ => none

theorem pieces_flatMap_write {tokens : List Token} (h : ∀ token ∈ tokens, token.Plain) :
    pieces '<' (tokens.flatMap Token.write) = [] :: tokens.map Token.body :=
  pieces_flatMap_cons fun token ht => Token.not_mem_body (h token ht)

theorem readTokens?_write {tokens : List Token} (h : ∀ token ∈ tokens, token.Plain) :
    readTokens? (tokens.flatMap Token.write) = some tokens := by
  have hbodies : (tokens.map Token.body).mapM Token.readBody? = some tokens := by
    induction tokens with
    | nil => rfl
    | cons token tokens ih =>
      have hrest := ih fun other ho => h other (List.mem_cons_of_mem _ ho)
      have hbody := Token.readBody?_body (h token List.mem_cons_self).markup_gt
      rw [List.map_cons, List.mapM_cons, hbody, hrest]
      rfl
  rw [readTokens?, pieces_flatMap_write h]
  exact hbodies

/-! ### Start tags -/

def isNameChar (c : Char) : Bool := c.isLower || c = '_'

def IsName (s : String) : Prop := ∀ c ∈ s.toList, isNameChar c = true

instance (s : String) : Decidable (IsName s) := List.decidableBAll _ s.toList

theorem IsName.not_mem {s : String} {c : Char} (h : IsName s) (hc : isNameChar c = false) :
    c ∉ s.toList := by
  intro hm
  exact absurd (h c hm) (by simp [hc])

structure StartTag where
  name : String
  entries : List (String × String)

namespace StartTag

def writeEntry (entry : String × String) : List Char :=
  ' ' :: entry.1.toList ++ '=' :: '"' :: escapeChars entry.2.toList ++ ['"']

def write (tag : StartTag) : List Char :=
  tag.name.toList ++ tag.entries.flatMap writeEntry

/-- The text between two values: a blank, the name and `=`. -/
def readKey? : List Char → Option String
  | ' ' :: cs =>
    if fromFirst (· = '=') cs = ['='] then some (String.ofList (before (· = '=') cs)) else none
  | _ => none

/-- Every second text between quotation marks is a value. -/
def readEntries? : List (List Char) → Option (List (String × String))
  | key :: value :: rest => do
    let name ← readKey? key
    let entries ← readEntries? rest
    return (name, String.ofList (unescapeChars value)) :: entries
  | [[]] => some []
  | _ => none

def read? (cs : List Char) : Option StartTag := do
  let entries ← readEntries? (pieces '"' (fromFirst (· = ' ') cs))
  return ⟨String.ofList (before (· = ' ') cs), entries⟩

structure Plain (tag : StartTag) : Prop where
  name : IsName tag.name
  keys : ∀ entry ∈ tag.entries, IsName entry.1

theorem readKey?_key {key : String} (h : IsName key) :
    readKey? (' ' :: key.toList ++ ['=']) = some key := by
  have hd := divides_at (h.not_mem (c := '=') (by decide)) []
  rw [List.cons_append, readKey?, fromFirst_of_divides hd, before_of_divides hd, if_pos rfl,
    String.ofList_toList]

theorem readEntries?_write {entries : List (String × String)}
    (h : ∀ entry ∈ entries, IsName entry.1) :
    readEntries? (pieces '"' (entries.flatMap writeEntry)) = some entries := by
  induction entries with
  | nil => rfl
  | cons entry entries ih =>
    have hrest := ih fun other ho => h other (List.mem_cons_of_mem _ ho)
    have hname : IsName entry.1 := h entry List.mem_cons_self
    have hkey : '"' ∉ ' ' :: entry.1.toList ++ ['='] := by
      simpa using hname.not_mem (c := '"') (by decide)
    have hvalue : '"' ∉ escapeChars entry.2.toList :=
      not_mem_escapeChars (.inr (.inr rfl)) entry.2.toList
    have hwrite : (entry :: entries).flatMap writeEntry
        = (' ' :: entry.1.toList ++ ['=']) ++ '"' ::
          (escapeChars entry.2.toList ++ '"' :: entries.flatMap writeEntry) := by
      simp [writeEntry]
    rw [hwrite, pieces_append_cons hkey, pieces_append_cons hvalue, readEntries?,
      readKey?_key hname, hrest, unescapeChars_escapeChars, String.ofList_toList]
    rfl

theorem divides_write {tag : StartTag} (h : IsName tag.name) :
    Divides (· = ' ') tag.write tag.name.toList (tag.entries.flatMap writeEntry) where
  whole := rfl
  free := by
    intro c hc
    exact decide_eq_false fun e => h.not_mem (c := ' ') (by decide) (e ▸ hc)
  stop := by
    intro c hc
    cases ha : tag.entries with
    | nil =>
      rw [ha] at hc
      cases hc
    | cons entry entries =>
      rw [ha] at hc
      cases hc
      rfl

theorem read?_write {tag : StartTag} (h : tag.Plain) : read? tag.write = some tag := by
  have hd := divides_write h.name
  rw [read?, fromFirst_of_divides hd, before_of_divides hd, readEntries?_write h.keys,
    String.ofList_toList]
  rfl

theorem not_mem_write {tag : StartTag} {c : Char} (h : tag.Plain) (hc : c = '<' ∨ c = '>') :
    c ∉ tag.write := by
  have hname : isNameChar c = false := by rcases hc with rfl | rfl <;> decide
  rw [write, List.mem_append, not_or]
  refine ⟨h.name.not_mem hname, ?_⟩
  intro hm
  obtain ⟨entry, ha, hm⟩ := List.mem_flatMap.1 hm
  have hkey : c ∉ entry.1.toList := (h.keys entry ha).not_mem hname
  have hvalue : c ∉ escapeChars entry.2.toList :=
    not_mem_escapeChars (hc.imp_right .inl) entry.2.toList
  have hsigns : c ≠ ' ' ∧ c ≠ '=' ∧ c ≠ '"' := by rcases hc with rfl | rfl <;> decide
  simp [writeEntry, hkey, hvalue, hsigns] at hm

end StartTag

end DetectionRule
