import DetectionRule.Json.Printer

/-!
# Tokens of a JSON text

The lexer goes through a text once. It knows where it stands: between tokens, in a word, or in a
text and there in an escape. Words are the two flags and the whole numbers; a text holds no control
characters as they are, and an escape by number stands for one code point. What the printer writes
for a value has the tokens of the value, whatever the indentation. Main statement: `lex_write`.
-/

namespace DetectionRule.Json

inductive Token
  | openArray
  | closeArray
  | openObject
  | closeObject
  | comma
  | colon
  | flag (b : Bool)
  | number (n : Int)
  | text (s : String)
deriving DecidableEq

namespace Token

def punctuation? : Char → Option Token
  | '[' => some openArray
  | ']' => some closeArray
  | '\x7b' => some openObject
  | '\x7d' => some closeObject
  | ',' => some comma
  | ':' => some colon
  | _ => none

def isBlank (c : Char) : Bool := c = ' ' || c = '\n' || c = '\t' || c = '\r'

def isWordChar (c : Char) : Bool := c.isAlphanum || c = '-' || c = '+' || c = '.'

/-- What a character stands for behind a backslash. -/
def escaped? : Char → Option Char
  | '"' => some '"'
  | '\\' => some '\\'
  | '/' => some '/'
  | 'b' => some '\x08'
  | 'f' => some '\x0c'
  | 'n' => some '\n'
  | 'r' => some '\r'
  | 't' => some '\t'
  | _ => none

def hexDigit? (c : Char) : Option Nat :=
  if c.isDigit then some (c.toNat - '0'.toNat)
  else if 'a' ≤ c ∧ c ≤ 'f' then some (c.toNat - 'a'.toNat + 10)
  else if 'A' ≤ c ∧ c ≤ 'F' then some (c.toNat - 'A'.toNat + 10)
  else none

def scalar? (n : Nat) : Option Char := if n.isValidChar then some (Char.ofNat n) else none

/-- Digits without leading zeros. -/
def natural? : List Char → Option Nat
  | [] => none
  | '0' :: cs => if cs = [] then some 0 else none
  | cs => if cs.all Char.isDigit then some (Nat.ofDigitChars 10 cs 0) else none

def integer? : List Char → Option Int
  | '-' :: cs => (natural? cs).map fun n => -(n : Int)
  | cs => (natural? cs).map Int.ofNat

def ofWord? (cs : List Char) : Option Token :=
  if cs = ['t', 'r', 'u', 'e'] then some (flag true)
  else if cs = ['f', 'a', 'l', 's', 'e'] then some (flag false)
  else (integer? cs).map number

end Token

/-! ### The lexer -/

/-- Where the lexer stands, with what it has read of a token. -/
inductive Scan
  | between
  | word (read : List Char)
  | text (read : List Char)
  | escape (read : List Char)
  | code (read : List Char) (value : Nat) (missing : Nat)
deriving DecidableEq

namespace Scan

def start (c : Char) : Option (List Token × Scan) :=
  if Token.isWordChar c then some ([], word [c])
  else if Token.isBlank c then some ([], between)
  else if c = '"' then some ([], text [])
  else (Token.punctuation? c).map fun token => ([token], between)

/-- The tokens that a character ends, and where the lexer then stands. -/
def step : Scan → Char → Option (List Token × Scan)
  | between, c => start c
  | word read, c =>
    if Token.isWordChar c then some ([], word (read ++ [c]))
    else
      (Token.ofWord? read).bind fun token =>
        (start c).map fun next => (token :: next.1, next.2)
  | text read, c =>
    if c = '"' then some ([.text (String.ofList read)], between)
    else if c = '\\' then some ([], escape read)
    else if c < ' ' then none
    else some ([], text (read ++ [c]))
  | escape read, c =>
    if c = 'u' then some ([], code read 0 3)
    else (Token.escaped? c).map fun e => ([], text (read ++ [e]))
  | code read value 0, c =>
    (Token.hexDigit? c).bind fun digit =>
      (Token.scalar? (value * 16 + digit)).map fun e => ([], text (read ++ [e]))
  | code read value (missing + 1), c =>
    (Token.hexDigit? c).map fun digit => ([], code read (value * 16 + digit) missing)

def finish : Scan → Option (List Token)
  | between => some []
  | word read => (Token.ofWord? read).map fun token => [token]
  | _ => none

end Scan

def lexFrom (scan : Scan) : List Char → Option (List Token)
  | [] => scan.finish
  | c :: cs => (scan.step c).bind fun next => (lexFrom next.2 cs).map (next.1 ++ ·)

def lex (cs : List Char) : Option (List Token) := lexFrom .between cs

section Step

variable {scan next : Scan} {c : Char} {cs : List Char} {token : Token} {after : List Token}

theorem lexFrom_cons_silent (h : scan.step c = some ([], next)) (cs : List Char) :
    lexFrom scan (c :: cs) = lexFrom next cs := by
  rw [lexFrom, h]
  show (lexFrom next cs).map ([] ++ ·) = _
  cases lexFrom next cs <;> rfl

theorem lexFrom_cons_token (h : scan.step c = some ([token], next))
    (hrest : lexFrom next cs = some after) :
    lexFrom scan (c :: cs) = some (token :: after) := by
  rw [lexFrom, h]
  show (lexFrom next cs).map ([token] ++ ·) = _
  rw [hrest]
  rfl

end Step

namespace Token

theorem isWordChar_of_isDigit {c : Char} (h : c.isDigit = true) : isWordChar c = true := by
  simp [isWordChar, Char.isAlphanum, h]

theorem head?_toDigits_ne_zero {n : Nat} (h : 0 < n) : (Nat.toDigits 10 n).head? ≠ some '0' := by
  induction n using Nat.strongRecOn with
  | _ n ih =>
    by_cases hlt : n < 10
    · have hdigit : ∀ d < 10, 0 < d → [Nat.digitChar d].head? ≠ some '0' := by decide
      rw [Nat.toDigits_of_lt_base hlt]
      exact hdigit n hlt h
    · have hhead := ih (n / 10) (by omega) (by omega)
      rw [Nat.toDigits_of_base_le (by decide) (by omega), List.head?_append]
      cases hdigits : (Nat.toDigits 10 (n / 10)).head? with
      | none => exact absurd (List.head?_eq_none_iff.1 hdigits) Nat.toDigits_ne_nil
      | some c =>
        rw [hdigits] at hhead
        exact hhead

theorem natural?_toDigits (n : Nat) : natural? (Nat.toDigits 10 n) = some n := by
  rcases Nat.eq_zero_or_pos n with rfl | hpos
  · rfl
  · have hhead := head?_toDigits_ne_zero hpos
    have hdigits : (Nat.toDigits 10 n).all Char.isDigit = true :=
      List.all_eq_true.2 fun c hc => Nat.isDigit_of_mem_toDigits (by decide) (by decide) hc
    have hvalue : Nat.ofDigitChars 10 (Nat.toDigits 10 n) 0 = n := by simp
    unfold natural?
    split
    · next hnil => exact absurd hnil Nat.toDigits_ne_nil
    · next cs hzero =>
      rw [hzero] at hhead
      exact absurd rfl hhead
    · rw [if_pos hdigits, hvalue]

theorem isDigit_of_mem_toDigits {n : Nat} {c : Char} (h : c ∈ Nat.toDigits 10 n) :
    c.isDigit = true :=
  Nat.isDigit_of_mem_toDigits (by decide) (by decide) h

theorem integer?_integer (n : Int) : integer? (Text.Decimal.integer n).toList = some n := by
  cases n with
  | ofNat n =>
    have hdash : ∀ cs, Nat.toDigits 10 n ≠ '-' :: cs := by
      intro cs hcs
      have hmem : '-' ∈ Nat.toDigits 10 n := by simp [hcs]
      exact absurd (isDigit_of_mem_toDigits hmem) (by decide)
    rw [Text.Decimal.integer, Text.Decimal.toList_natural]
    unfold integer?
    split
    · next cs hcs => exact absurd hcs (hdash cs)
    · rw [natural?_toDigits]
      rfl
  | negSucc n =>
    have hlist : (Text.Decimal.integer (.negSucc n)).toList = '-' :: Nat.toDigits 10 (n + 1) := by
      simp [Text.Decimal.integer, Text.Decimal.toList_natural]
    rw [hlist, integer?, natural?_toDigits]
    rfl

theorem isWordChar_of_mem_integer {n : Int} {c : Char}
    (h : c ∈ (Text.Decimal.integer n).toList) : isWordChar c = true := by
  cases n with
  | ofNat n =>
    rw [Text.Decimal.integer, Text.Decimal.toList_natural] at h
    exact isWordChar_of_isDigit (isDigit_of_mem_toDigits h)
  | negSucc n =>
    rw [Text.Decimal.integer, String.toList_append, List.mem_append, Text.Decimal.toList_natural]
      at h
    rcases h with h | h
    · rw [List.mem_singleton.1 (show c ∈ ['-'] from h)]
      decide
    · exact isWordChar_of_isDigit (isDigit_of_mem_toDigits h)

theorem ofWord?_integer (n : Int) :
    ofWord? (Text.Decimal.integer n).toList = some (.number n) := by
  have hword : ∀ cs, integer? cs = none → (Text.Decimal.integer n).toList ≠ cs := by
    rintro cs hcs rfl
    rw [integer?_integer] at hcs
    cases hcs
  rw [ofWord?, if_neg (hword _ (by decide)), if_neg (hword _ (by decide)), integer?_integer]
  rfl

end Token

/-- What follows does not go on with a word. -/
def EndsWord (rest : List Char) : Prop := ∀ c ∈ rest.head?, Token.isWordChar c = false

theorem endsWord_nil : EndsWord [] := nofun

theorem endsWord_cons {c : Char} (h : Token.isWordChar c = false) (rest : List Char) :
    EndsWord (c :: rest) := by
  rintro _ ⟨⟩
  exact h

variable {rest cs : List Char} {after : List Token} {token : Token}

theorem lexFrom_word (read : List Char) (hchars : ∀ c ∈ cs, Token.isWordChar c = true)
    (hword : Token.ofWord? (read ++ cs) = some token) (hends : EndsWord rest)
    (hrest : lex rest = some after) :
    lexFrom (.word read) (cs ++ rest) = some (token :: after) := by
  -- By induction on what is still to come of the word.
  induction cs generalizing read with
  | nil =>
    rw [List.append_nil] at hword
    cases rest with
    | nil =>
      cases hrest
      simp [lexFrom, Scan.finish, hword]
    | cons c rest =>
      have hc : Token.isWordChar c = false := hends c rfl
      rw [lex, lexFrom, Scan.step] at hrest
      obtain ⟨next, hstart, hnext⟩ := Option.bind_eq_some_iff.1 hrest
      obtain ⟨more, hmore, htokens⟩ := Option.map_eq_some_iff.1 hnext
      simp [lexFrom, Scan.step, hc, hword, hstart, hmore, htokens]
  | cons c cs ih =>
    have hc : Token.isWordChar c = true := hchars c (List.mem_cons_self ..)
    have hread : Token.ofWord? (read ++ [c] ++ cs) = some token := by simpa using hword
    have hmore := ih (read ++ [c]) (fun c hc => hchars c (List.mem_cons_of_mem _ hc)) hread
    have hstep : Scan.step (.word read) c = some ([], .word (read ++ [c])) := by
      rw [Scan.step, if_pos hc]
    rw [List.cons_append, lexFrom_cons_silent hstep, hmore]

theorem lex_word (hne : cs ≠ []) (hchars : ∀ c ∈ cs, Token.isWordChar c = true)
    (hword : Token.ofWord? cs = some token) (hends : EndsWord rest)
    (hrest : lex rest = some after) : lex (cs ++ rest) = some (token :: after) := by
  cases cs with
  | nil => exact absurd rfl hne
  | cons c cs =>
    have hc : Token.isWordChar c = true := hchars c (List.mem_cons_self ..)
    have hmore := lexFrom_word [c] (fun c hc => hchars c (List.mem_cons_of_mem _ hc)) hword hends
      hrest
    have hstart : Scan.step .between c = some ([], .word [c]) := by
      rw [Scan.step, Scan.start, if_pos hc]
    rw [lex, List.cons_append, lexFrom_cons_silent hstart, hmore]

theorem lex_blank {c : Char} (hword : Token.isWordChar c = false) (hblank : Token.isBlank c = true)
    (rest : List Char) : lex (c :: rest) = lex rest := by
  have hstep : Scan.step .between c = some ([], .between) := by
    simp [Scan.step, Scan.start, hword, hblank]
  exact lexFrom_cons_silent hstep rest

theorem lex_replicate (n : Nat) (rest : List Char) :
    lex (List.replicate n ' ' ++ rest) = lex rest := by
  induction n with
  | zero => rfl
  | succ n ih => rw [List.replicate_succ, List.cons_append, lex_blank rfl rfl, ih]

theorem lex_newline (depth : Nat) (rest : List Char) :
    lex ((newline depth).toList ++ rest) = lex rest := by
  have hlist : (newline depth).toList = '\n' :: List.replicate (2 * depth) ' ' := by simp [newline]
  rw [hlist, List.cons_append, lex_blank rfl rfl, lex_replicate]

theorem lex_punctuation {c : Char} (hpunctuation : Token.punctuation? c = some token)
    (hrest : lex rest = some after) : lex (c :: rest) = some (token :: after) := by
  have hstart : Scan.start c = some ([token], .between) := by
    unfold Token.punctuation? at hpunctuation
    split at hpunctuation <;> cases hpunctuation <;> rfl
  exact lexFrom_cons_token hstart hrest

/-! ### Texts -/

theorem hexDigit?_digitChar {d : Nat} (h : d < 16) :
    Token.hexDigit? (Nat.digitChar d) = some d := by
  have hall : ∀ d < 16, Token.hexDigit? (Nat.digitChar d) = some d := by decide
  exact hall d h

theorem scalar?_toNat (c : Char) : Token.scalar? c.toNat = some c := by
  have hvalid : c.toNat.isValidChar := c.valid
  rw [Token.scalar?, if_pos hvalid, Char.ofNat_toNat]

/-- An encoded character is read as the character. -/
theorem lexFrom_encodeChar (read : List Char) (c : Char) (rest : List Char) :
    lexFrom (.text read) (encodeChar c ++ rest) = lexFrom (.text (read ++ [c])) rest := by
  unfold encodeChar
  split
  · exact (lexFrom_cons_silent rfl _).trans (lexFrom_cons_silent rfl rest)
  · exact (lexFrom_cons_silent rfl _).trans (lexFrom_cons_silent rfl rest)
  · exact (lexFrom_cons_silent rfl _).trans (lexFrom_cons_silent rfl rest)
  · exact (lexFrom_cons_silent rfl _).trans (lexFrom_cons_silent rfl rest)
  · exact (lexFrom_cons_silent rfl _).trans (lexFrom_cons_silent rfl rest)
  · exact (lexFrom_cons_silent rfl _).trans (lexFrom_cons_silent rfl rest)
  · exact (lexFrom_cons_silent rfl _).trans (lexFrom_cons_silent rfl rest)
  · next hquote hbackslash _ _ _ _ _ =>
    split
    · next hcontrol =>
      have hsmall : c.toNat < 32 := hcontrol
      have hhigh : Scan.step (.code read 0 1) (Nat.digitChar (c.toNat / 16))
          = some ([], .code read (c.toNat / 16) 0) := by
        rw [Scan.step, hexDigit?_digitChar (by omega)]
        simp
      have hlow : Scan.step (.code read (c.toNat / 16) 0) (Nat.digitChar (c.toNat % 16))
          = some ([], .text (read ++ [c])) := by
        have hvalue : c.toNat / 16 * 16 + c.toNat % 16 = c.toNat := by omega
        rw [Scan.step, hexDigit?_digitChar (by omega), Option.bind_some, hvalue, scalar?_toNat,
          Option.map_some]
      show lexFrom (.text read) ('\\' :: 'u' :: '0' :: '0' :: _ :: _ :: rest) = _
      rw [lexFrom_cons_silent rfl, lexFrom_cons_silent rfl, lexFrom_cons_silent rfl,
        lexFrom_cons_silent rfl]
      exact (lexFrom_cons_silent hhigh _).trans (lexFrom_cons_silent hlow rest)
    · next hcontrol =>
      have hstep : Scan.step (.text read) c = some ([], .text (read ++ [c])) := by
        rw [Scan.step, if_neg hquote, if_neg hbackslash, if_neg hcontrol]
      exact lexFrom_cons_silent hstep rest

theorem lexFrom_encodeChars (read cs : List Char) (hrest : lex rest = some after) :
    lexFrom (.text read) (encodeChars cs ++ '"' :: rest)
      = some (.text (String.ofList (read ++ cs)) :: after) := by
  -- By induction on what is still to come of the text.
  induction cs generalizing read with
  | nil =>
    rw [List.append_nil]
    exact lexFrom_cons_token rfl hrest
  | cons c cs ih =>
    have hcs := ih (read ++ [c])
    rw [encodeChars, List.flatMap_cons, List.append_assoc, lexFrom_encodeChar]
    simpa [encodeChars] using hcs

theorem lex_quoted (s : String) (hrest : lex rest = some after) :
    lex ((quoted s).toList ++ rest) = some (.text s :: after) := by
  have htext := lexFrom_encodeChars [] s.toList hrest
  rw [List.nil_append, String.ofList_toList] at htext
  have hlist : (quoted s).toList ++ rest = '"' :: (encodeChars s.toList ++ '"' :: rest) := by
    simp [quoted]
  have hstart : Scan.step .between '"' = some ([], .text []) := rfl
  rw [hlist]
  exact (lexFrom_cons_silent hstart _).trans htext

/-! ### Values -/

mutual

def tokens : Json → List Token
  | flag b => [.flag b]
  | number n => [.number n]
  | text s => [.text s]
  | array [] => [.openArray, .closeArray]
  | array (item :: items) => .openArray :: (item.tokens ++ itemTokens items ++ [.closeArray])
  | object [] => [.openObject, .closeObject]
  | object ((name, value) :: members) =>
    .openObject :: .text name :: .colon :: (value.tokens ++ memberTokens members ++ [.closeObject])

def itemTokens : List Json → List Token
  | [] => []
  | item :: items => .comma :: (item.tokens ++ itemTokens items)

def memberTokens : List (String × Json) → List Token
  | [] => []
  | (name, value) :: members =>
    .comma :: .text name :: .colon :: (value.tokens ++ memberTokens members)

end

theorem endsWord_newline (depth : Nat) (rest : List Char) :
    EndsWord ((newline depth).toList ++ rest) := by
  have hlist : (newline depth).toList = '\n' :: List.replicate (2 * depth) ' ' := by simp [newline]
  rw [hlist]
  exact endsWord_cons rfl _

theorem endsWord_writeItems (depth : Nat) (items : List Json) (hends : EndsWord rest) :
    EndsWord ((writeItems depth items).toList ++ rest) := by
  cases items with
  | nil => exact hends
  | cons item items =>
    simp only [writeItems, String.toList_append, List.append_assoc]
    exact endsWord_cons rfl _

theorem endsWord_writeMembers (depth : Nat) (members : List (String × Json))
    (hends : EndsWord rest) : EndsWord ((writeMembers depth members).toList ++ rest) := by
  cases members with
  | nil => exact hends
  | cons member members =>
    simp only [writeMembers, String.toList_append, List.append_assoc]
    exact endsWord_cons rfl _

theorem lex_flag (depth : Nat) (b : Bool) (hends : EndsWord rest)
    (hrest : lex rest = some after) :
    lex ((write depth (flag b)).toList ++ rest) = some ((flag b).tokens ++ after) := by
  have htrue : ['t', 'r', 'u', 'e'].all Token.isWordChar = true := rfl
  have hfalse : ['f', 'a', 'l', 's', 'e'].all Token.isWordChar = true := rfl
  rw [tokens]
  cases b with
  | true =>
    rw [write]
    exact lex_word (List.cons_ne_nil _ _) (List.all_eq_true.1 htrue) rfl hends hrest
  | false =>
    rw [write]
    exact lex_word (List.cons_ne_nil _ _) (List.all_eq_true.1 hfalse) rfl hends hrest

theorem lex_number (depth : Nat) (n : Int) (hends : EndsWord rest)
    (hrest : lex rest = some after) :
    lex ((write depth (number n)).toList ++ rest) = some ((number n).tokens ++ after) := by
  have hword := Token.ofWord?_integer n
  have hne : (Text.Decimal.integer n).toList ≠ [] := by
    intro hnil
    rw [hnil] at hword
    cases hword
  rw [write, tokens]
  exact lex_word hne (fun c hc => Token.isWordChar_of_mem_integer hc) hword hends hrest

theorem lex_member (name : String) (hrest : lex rest = some after) :
    lex ((quoted name).toList ++ ':' :: ' ' :: rest) = some (.text name :: .colon :: after) := by
  apply lex_quoted
  apply lex_punctuation rfl
  rw [lex_blank rfl rfl, hrest]

mutual

/-- A written value, with anything behind it that ends a word, is the tokens of the value. -/
theorem lex_write (depth : Nat) (value : Json) {rest : List Char} {after : List Token}
    (hends : EndsWord rest) (hrest : lex rest = some after) :
    lex ((value.write depth).toList ++ rest) = some (value.tokens ++ after) :=
  match value with
  | flag b => lex_flag depth b hends hrest
  | number n => lex_number depth n hends hrest
  | text s => by
    rw [write, tokens]
    exact lex_quoted s hrest
  | array [] => by
    have hclose : lex (']' :: rest) = some (.closeArray :: after) := lex_punctuation rfl hrest
    have hopen : lex ('[' :: ']' :: rest) = some (.openArray :: .closeArray :: after) :=
      lex_punctuation rfl hclose
    simpa [write, tokens] using hopen
  | array (item :: items) => by
    have hclose : lex ((newline depth).toList ++ ']' :: rest) = some (.closeArray :: after) := by
      rw [lex_newline]
      exact lex_punctuation rfl hrest
    have hend := endsWord_newline depth (']' :: rest)
    have hitems := lex_writeItems (depth + 1) items hend hclose
    have hitem := lex_write (depth + 1) item (endsWord_writeItems (depth + 1) items hend) hitems
    rw [← lex_newline (depth + 1)] at hitem
    have hopen : lex ('[' :: _) = some (.openArray :: _) := lex_punctuation rfl hitem
    simpa [write, tokens] using hopen
  | object [] => by
    have hclose : lex ('\x7d' :: rest) = some (.closeObject :: after) := lex_punctuation rfl hrest
    have hopen : lex ('\x7b' :: '\x7d' :: rest) = some (.openObject :: .closeObject :: after) :=
      lex_punctuation rfl hclose
    simpa [write, tokens] using hopen
  | object ((name, value) :: members) => by
    have hclose :
        lex ((newline depth).toList ++ '\x7d' :: rest) = some (.closeObject :: after) := by
      rw [lex_newline]
      exact lex_punctuation (c := '\x7d') rfl hrest
    have hend := endsWord_newline depth ('\x7d' :: rest)
    have hmembers := lex_writeMembers (depth + 1) members hend hclose
    have hvalue :=
      lex_write (depth + 1) value (endsWord_writeMembers (depth + 1) members hend) hmembers
    have hmember := lex_member name hvalue
    rw [← lex_newline (depth + 1)] at hmember
    have hopen : lex ('\x7b' :: _) = some (.openObject :: _) := lex_punctuation rfl hmember
    simpa [write, tokens] using hopen

theorem lex_writeItems (depth : Nat) (items : List Json) {rest : List Char} {after : List Token}
    (hends : EndsWord rest) (hrest : lex rest = some after) :
    lex ((writeItems depth items).toList ++ rest) = some (itemTokens items ++ after) :=
  match items with
  | [] => hrest
  | item :: items => by
    have hitems := lex_writeItems depth items hends hrest
    have hitem := lex_write depth item (endsWord_writeItems depth items hends) hitems
    rw [← lex_newline depth] at hitem
    have hcomma : lex (',' :: _) = some (.comma :: _) := lex_punctuation rfl hitem
    simpa [writeItems, itemTokens] using hcomma

theorem lex_writeMembers (depth : Nat) (members : List (String × Json)) {rest : List Char}
    {after : List Token} (hends : EndsWord rest) (hrest : lex rest = some after) :
    lex ((writeMembers depth members).toList ++ rest) = some (memberTokens members ++ after) :=
  match members with
  | [] => hrest
  | (name, value) :: members => by
    have hmembers := lex_writeMembers depth members hends hrest
    have hvalue := lex_write depth value (endsWord_writeMembers depth members hends) hmembers
    have hmember := lex_member name hvalue
    rw [← lex_newline depth] at hmember
    have hcomma : lex (',' :: _) = some (.comma :: _) := lex_punctuation rfl hmember
    simpa [writeMembers, memberTokens] using hcomma

end

end DetectionRule.Json
