import DetectionRule.CommandLine.Environment
import DetectionRule.Text.Blank
import DetectionRule.Text.Pieces

/-!
# The settings file

A file in the working directory adds the variables that the environment does not define. It is cut
into entries: as a rule an entry is a line, but an open quotation carries it over to the lines that
follow. An entry is blank, a comment, or `NAME=value`, and reading ends at one that is none of
these; what was read until then counts.
-/

namespace DetectionRule.CommandLine.SettingsFile

inductive Scan
  | plain
  | gap
  | escape
  | double
  | doubleEscape
  | single
  | singleEscape
deriving DecidableEq, Repr

namespace Scan

def outside (c : Char) : Scan :=
  match c with
  | '\\' => .escape
  | '"' => .double
  | '\x27' => .single
  | _ => .plain

/-- A blank opens a gap, and the next character closes it, be it another blank. The ends of a line
open none. -/
def next : Scan → Char → Scan
  | .plain, c => if Text.isBlank c && c != '\n' && c != '\r' then .gap else outside c
  | .gap, c => outside c
  | .escape, _ => .plain
  | .double, c => if c = '"' then .plain else if c = '\\' then .doubleEscape else .double
  | .doubleEscape, _ => .double
  | .single, c => if c = '\x27' then .plain else if c = '\\' then .singleEscape else .single
  | .singleEscape, _ => .single

/-- Follows a line: the part of it that counts, and where the search then stands. A `#` in a gap
ends both the line and the search. -/
def follow : Scan → List Char → List Char × Option Scan
  | scan, [] => ([], some scan)
  | scan, c :: cs =>
    if scan = .gap && c = '#' then ([], none)
    else
      let (kept, last) := follow (scan.next c) cs
      (c :: kept, last)

end Scan

def isComment (line : List Char) : Bool := (line.dropWhile Text.isBlank).head? = some '#'

/-- The entries of the lines, where `held` is what an entry has so far. One that is not over with
the last line is dropped; so is a line that stops in a gap, with no line feed behind it. -/
def entriesFrom : List Char → Scan → List (List Char) → List (List Char)
  | _, _, [] => []
  | held, scan, line :: lines =>
    if held.isEmpty && isComment line then entriesFrom [] .plain lines
    else
      match scan.follow line with
      | (kept, none) => (held ++ kept) :: entriesFrom [] .plain lines
      | (kept, some .plain) => (held ++ kept) :: entriesFrom [] .plain lines
      | (kept, some scan) => entriesFrom (held ++ kept) scan lines

/-- The entries of a text. A byte order mark before the first is passed over. -/
def entries (text : String) : List (List Char) :=
  match text.toList with
  | '\ufeff' :: cs => entriesFrom [] .plain (Text.lines cs)
  | cs => entriesFrom [] .plain (Text.lines cs)

theorem exists_follow_append (scan : Scan) (line : List Char) :
    ∃ rest, (scan.follow line).1 ++ rest = line := by
  induction line generalizing scan with
  | nil => exact ⟨[], rfl⟩
  | cons c cs ih =>
    by_cases h : scan = .gap ∧ c = '#'
    · exact ⟨c :: cs, by simp [Scan.follow, h]⟩
    · obtain ⟨rest, hr⟩ := ih (scan.next c)
      exact ⟨rest, by simp [Scan.follow, h, hr]⟩

-- the second of two blanks closes the gap that the first opened; a third opens another
example : entriesFrom [] .plain [['A', '=', '1', ' ', ' ']] = [['A', '=', '1', ' ', ' ']] := by
  decide

example : entriesFrom [] .plain [['A', '=', '1', ' ', ' ', ' ']] = [] := by decide

def startsName (c : Char) : Bool := c.isAlpha || c = '_'

def continuesName (c : Char) : Bool := c.isAlphanum || c = '_' || c = '.'

def name? (cs : List Char) : Option (String × List Char) :=
  if (cs.head?.map startsName).getD false then
    some (String.ofList (cs.takeWhile continuesName),
      (cs.dropWhile continuesName).dropWhile Text.isBlank)
  else none

/-- A name and the text of its value, with an equals sign between them. The word `export` may stand
before the name. -/
def assignment? (cs : List Char) : Option (String × List Char) :=
  match name? cs with
  | some (name, '=' :: value) => some (name, value.dropWhile Text.isBlank)
  | some ("export", rest) =>
    match name? rest with
    | some (name, '=' :: value) => some (name, value.dropWhile Text.isBlank)
    | _ => none
  | _ => none

/-! ### Values -/

-- a single quotation holds every character as it stands; a reference has its name so far
inductive Part
  | text
  | escape
  | single
  | reference (name : List Char)
  | braced (name : List Char)
  | ending
deriving DecidableEq, Repr

def separates (c : Char) : Bool := c = ' ' || c = '\t'

def unescape? (c : Char) : Option Char :=
  if c = 'n' then some '\n'
  else if c = '\\' || c = '\x27' || c = '"' || c = '$' || c = ' ' then some c
  else none

def resolve (environment : Environment) (name : List Char) : List Char :=
  ((environment.lookup (String.ofList name)).getD "").toList

/-- The rest of a value, where `quoted` tells that a double quotation is open. The value ends at the
first separator outside of quotations; behind it only separators and a comment may follow. Between
double quotes a backslash escapes and a dollar sign refers, as outside of them. -/
def valueFrom (environment : Environment) : Part → Bool → List Char → Option (List Char)
  | .single, _, [] => none
  | .braced _, _, [] => none
  | .reference name, quoted, [] => if quoted then none else some (resolve environment name)
  | _, quoted, [] => if quoted then none else some []
  | .ending, quoted, c :: cs =>
    if separates c then valueFrom environment .ending quoted cs
    else if c = '#' then some []
    else none
  | .escape, quoted, c :: cs =>
    match unescape? c with
    | some e => (valueFrom environment .text quoted cs).map (e :: ·)
    | none => none
  | .single, quoted, c :: cs =>
    if c = '\x27' then valueFrom environment .text quoted cs
    else (valueFrom environment .single quoted cs).map (c :: ·)
  | .reference name, quoted, c :: cs =>
    if c.isAlphanum then valueFrom environment (.reference (name ++ [c])) quoted cs
    else if c = '\x7b' && name.isEmpty then valueFrom environment (.braced []) quoted cs
    else if c = '$' then
      (valueFrom environment (.reference []) quoted cs).map (resolve environment name ++ ·)
    else (valueFrom environment .text quoted cs).map (resolve environment name ++ c :: ·)
  | .braced name, quoted, c :: cs =>
    if c = '\x7d' then
      (valueFrom environment .text quoted cs).map (resolve environment name ++ ·)
    else valueFrom environment (.braced (name ++ [c])) quoted cs
  | .text, quoted, c :: cs =>
    if c = '$' then valueFrom environment (.reference []) quoted cs
    else if c = '\\' then valueFrom environment .escape quoted cs
    else if c = '"' then valueFrom environment .text (!quoted) cs
    else if c = '\x27' && !quoted then valueFrom environment .single quoted cs
    else if separates c && !quoted then valueFrom environment .ending quoted cs
    else (valueFrom environment .text quoted cs).map (c :: ·)

/-- The value of an assignment; a comment in its place leaves it empty. -/
def value? (environment : Environment) (cs : List Char) : Option String :=
  if cs.head? = some '#' then some ""
  else (valueFrom environment .text false cs).map String.ofList

inductive Entry
  | nothing
  | setting (name value : String)
  | unreadable
deriving DecidableEq, Repr

def Entry.read (environment : Environment) (cs : List Char) : Entry :=
  match Text.trimChars cs with
  | [] => .nothing
  | c :: cs =>
    if c = '#' then .nothing
    else
      match assignment? (c :: cs) with
      | none => .unreadable
      | some (name, value) =>
        match value? environment value with
        | none => .unreadable
        | some value => .setting name value

/-- The names that the dollar signs of a text may refer to. -/
def mentioned : List Char → List String
  | [] => []
  | '$' :: '\x7b' :: cs => String.ofList (cs.takeWhile (· != '\x7d')) :: mentioned cs
  | '$' :: cs => String.ofList (cs.takeWhile Char.isAlphanum) :: mentioned cs
  | _ :: cs => mentioned cs

end SettingsFile

namespace Environment

open SettingsFile

/-- The environment with the variables of the entries, up to the first that cannot be read. -/
def adopt (environment : Environment) : List (List Char) → Environment
  | [] => environment
  | entry :: entries =>
    match Entry.read environment entry with
    | .nothing => environment.adopt entries
    | .setting name value => (environment.define name value).adopt entries
    | .unreadable => environment

def withFile (environment : Environment) : Option String → Environment
  | some text => environment.adopt (entries text)
  | none => environment

theorem lookup_adopt_of_some {environment : Environment} {name known : String}
    (entries : List (List Char)) (h : environment.lookup name = some known) :
    (environment.adopt entries).lookup name = some known := by
  induction entries generalizing environment with
  | nil => exact h
  | cons entry entries ih =>
    simp only [adopt]
    split
    · exact ih h
    · exact ih (lookup_define_of_some h _ _)
    · exact h

/-- What the process defines, no settings file changes, whatever stands in it. -/
theorem lookup_withFile_of_some {environment : Environment} {name known : String}
    (file : Option String) (h : environment.lookup name = some known) :
    (environment.withFile file).lookup name = some known := by
  cases file with
  | none => exact h
  | some text => exact lookup_adopt_of_some _ h

end Environment

end DetectionRule.CommandLine
