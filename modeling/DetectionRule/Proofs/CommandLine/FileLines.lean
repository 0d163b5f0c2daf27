import DetectionRule.CommandLine.SettingsFile
import DetectionRule.Proofs.Text.Cutting
import Mathlib.Data.List.Chain

/-!
# Settings files of plain lines

A plain line is blank, a comment, or `NAME=value` with a value that is written as it stands: without
quotations, escapes and references, and with nothing but blanks around it. A file of such lines adds
the variables that they assign and the environment does not define. Main statement:
`Environment.lookup_withFile`.
-/

namespace DetectionRule.CommandLine

namespace SettingsFile

/-- Blanks between the parts of a line. -/
structure Gap where
  chars : List Char
  blank : chars.all Text.isBlank = true

def Gap.none : Gap := ⟨[], rfl⟩

structure IsName (cs : List Char) : Prop where
  first : ∃ c ∈ cs.head?, startsName c = true
  all : cs.all continuesName = true

/-- The characters that mean nothing but themselves in a value. -/
def isPlain (c : Char) : Bool := !(separates c || ['"', '\x27', '\\', '$'].contains c)

/-- No `#` stands right behind a blank. -/
def Uncut (cs : List Char) : Prop := cs.IsChain fun a b => Text.isBlank a = true → b ≠ '#'

/-- No comment begins in the text, wherever on a line it stands. -/
structure Clear (cs : List Char) : Prop where
  first : cs.head? ≠ some '#'
  uncut : Uncut cs

/-- A value as it may be written without quotations. A NUL among its characters is let through,
though no variable of a process can hold one. -/
structure IsValue (cs : List Char) : Prop where
  plain : cs.all isPlain = true
  trimmed : Text.trimChars cs = cs
  clear : Clear cs

/-- The gaps of an assignment: around the name, and around the value. -/
structure Spacing where
  left : Gap := .none
  before : Gap := .none
  after : Gap := .none
  right : Gap := .none

def Spacing.line (spacing : Spacing) (name value : List Char) : List Char :=
  spacing.left.chars ++ (name ++ (spacing.before.chars ++
    '=' :: (spacing.after.chars ++ (value ++ spacing.right.chars))))

/-- A line without the line feed that ends it, and what it assigns. -/
inductive Line : List Char → Option (String × String) → Prop
  | blank (gap : Gap) : Line gap.chars none
  | comment (gap : Gap) (text : List Char) : Line (gap.chars ++ '#' :: text) none
  | assignment (spacing : Spacing) {name value : String} (hname : IsName name.toList)
      (hvalue : IsValue value.toList) :
      Line (spacing.line name.toList value.toList) (some (name, value))

/-- A text of plain lines, and what they assign. The last line may lack a line feed, if it does not
end with a blank. -/
inductive Lists : List Char → List (String × String) → Prop
  | nil : Lists [] []
  | last {line : List Char} {pair : Option (String × String)} (h : Line line pair)
      (feed : '\n' ∉ line) (closed : ∃ c ∈ line.getLast?, Text.isBlank c = false) :
      Lists line pair.toList
  | cons {line cs : List Char} {pair : Option (String × String)} {pairs : List (String × String)}
      (h : Line line pair) (feed : '\n' ∉ line) (rest : Lists cs pairs) :
      Lists (line ++ '\n' :: cs) (pair.toList ++ pairs)

/-- The file has plain lines only, or is not there. -/
inductive Plain : Option String → List (String × String) → Prop
  | absent : Plain none []
  | text {text : String} {pairs : List (String × String)} (h : Lists text.toList pairs) :
      Plain (some text) pairs

variable {cs rest line name value : List Char} {c : Char} {scan : Scan} {environment : Environment}
  {pair : Option (String × String)} {pairs : List (String × String)} {lines : List (List Char)}
  {spacing : Spacing} {gap : Gap}

theorem toNat_of_continuesName (h : continuesName c = true) : 0x21 ≤ c.toNat ∧ c.toNat ≤ 0x7e := by
  have hclasses : (decide (c.val ≥ 'A'.val ∧ c.val ≤ 'Z'.val) ||
      (decide (c.val ≥ 'a'.val) && decide (c.val ≤ 'z'.val)) ||
      (decide (c.val ≥ '0'.val) && decide (c.val ≤ '9'.val)) ||
      decide (c = '_') || decide (c = '.')) = true := h
  simp only [Bool.or_eq_true, Bool.and_eq_true, decide_eq_true_eq, UInt32.le_iff_toNat_le,
    ge_iff_le] at hclasses
  rcases hclasses with (((⟨h1, h2⟩ | ⟨h1, h2⟩) | ⟨h1, h2⟩) | h) | h
  · exact ⟨le_trans (by decide) h1, le_trans h2 (by decide)⟩
  · exact ⟨le_trans (by decide) h1, le_trans h2 (by decide)⟩
  · exact ⟨le_trans (by decide) h1, le_trans h2 (by decide)⟩
  · subst h
    decide
  · subst h
    decide

theorem isBlank_of_continuesName (h : continuesName c = true) : Text.isBlank c = false := by
  obtain ⟨hlow, hhigh⟩ := toNat_of_continuesName h
  exact Text.isBlank_of_visible hlow hhigh

theorem continuesName_of_startsName (h : startsName c = true) : continuesName c = true := by
  simp only [startsName, Bool.or_eq_true] at h
  simp only [continuesName, Char.isAlphanum, Bool.or_eq_true]
  tauto

theorem Gap.isBlank (gap : Gap) : ∀ c ∈ gap.chars, Text.isBlank c = true :=
  List.all_eq_true.1 gap.blank

theorem outside_eq_plain {p : Char → Bool} (hp : p '\\' = false ∧ p '"' = false ∧ p '\x27' = false)
    (h : cs.all p = true) : ∀ c ∈ cs, Scan.outside c = .plain := by
  intro c hc
  have hclass := List.all_eq_true.1 h c hc
  unfold Scan.outside
  split
  · rw [hp.1] at hclass
    cases hclass
  · rw [hp.2.1] at hclass
    cases hclass
  · rw [hp.2.2] at hclass
    cases hclass
  · rfl

theorem Gap.outside (gap : Gap) : ∀ c ∈ gap.chars, Scan.outside c = .plain :=
  outside_eq_plain (by decide) gap.blank

theorem IsName.outside (h : IsName name) : ∀ c ∈ name, Scan.outside c = .plain :=
  outside_eq_plain (by decide) h.all

theorem IsValue.outside (h : IsValue value) : ∀ c ∈ value, Scan.outside c = .plain :=
  outside_eq_plain (by decide) h.plain

theorem IsName.isBlank_head (h : IsName name) (rest : List Char) :
    ∀ c ∈ (name ++ rest).head?, Text.isBlank c = false := by
  obtain ⟨first, hfirst, hstarts⟩ := h.first
  rw [List.head?_append, Option.mem_def.1 hfirst]
  rintro c ⟨⟩
  exact isBlank_of_continuesName (continuesName_of_startsName hstarts)

theorem clear_of_not_mem (h : '#' ∉ cs) : Clear cs := by
  refine ⟨fun hhead => h (List.mem_of_head? hhead), ?_⟩
  induction cs with
  | nil => exact .nil
  | cons c cs ih =>
    rw [List.mem_cons, not_or] at h
    refine List.isChain_cons.2 ⟨?_, ih h.2⟩
    rintro d hd - rfl
    exact h.2 (List.mem_of_head? hd)

theorem Clear.append (hcs : Clear cs) (hrest : Clear rest) : Clear (cs ++ rest) := by
  constructor
  · cases cs with
    | nil => exact hrest.first
    | cons c cs => exact hcs.first
  · refine List.isChain_append.2 ⟨hcs.uncut, hrest.uncut, ?_⟩
    rintro c - d hd - rfl
    exact hrest.first hd

theorem Gap.clear (gap : Gap) : Clear gap.chars :=
  clear_of_not_mem fun hmem => absurd (gap.isBlank '#' hmem) (by decide)

theorem IsName.clear (h : IsName name) : Clear name :=
  clear_of_not_mem fun hmem => absurd (List.all_eq_true.1 h.all '#' hmem) (by decide)

/-! ### Following a line -/

theorem next_of_outside (hscan : scan = .plain ∨ scan = .gap) (hc : Scan.outside c = .plain) :
    scan.next c = .plain ∨ (scan.next c = .gap ∧ Text.isBlank c = true ∧ c ≠ '\n') := by
  rcases hscan with rfl | rfl
  · rw [Scan.next]
    split
    · next hblank =>
      simp only [Bool.and_eq_true, bne_iff_ne] at hblank
      exact .inr ⟨rfl, hblank.1⟩
    · exact .inl hc
  · exact .inl hc

theorem follow_of_uncut (hscan : scan = .plain ∨ (scan = .gap ∧ cs.head? ≠ some '#'))
    (hout : ∀ c ∈ cs, Scan.outside c = .plain) (huncut : Uncut cs) :
    ∃ last, scan.follow cs = (cs, some last) ∧ (last = .plain ∨ (cs = [] ∧ last = scan) ∨
      ∃ c ∈ cs.getLast?, Text.isBlank c = true ∧ c ≠ '\n') := by
  -- By induction on the line: all of it is kept, and a gap is open at the end only behind a
  -- blank.
  induction cs generalizing scan with
  | nil => exact ⟨scan, rfl, .inr (.inl ⟨rfl, rfl⟩)⟩
  | cons c cs ih =>
    obtain ⟨hc, hcs⟩ := List.forall_mem_cons.1 hout
    obtain ⟨hnext, hrest⟩ := List.isChain_cons.1 huncut
    have hstay : ¬(scan = .gap ∧ c = '#') := by
      rintro ⟨rfl, rfl⟩
      simp at hscan
    have hopen := next_of_outside (hscan.imp_right And.left) hc
    have hafter : scan.next c = .plain ∨ (scan.next c = .gap ∧ cs.head? ≠ some '#') := by
      rcases hopen with hplain | ⟨hgap, hblank, -⟩
      · exact .inl hplain
      · exact .inr ⟨hgap, fun hhead => hnext '#' hhead hblank rfl⟩
    obtain ⟨last, hfollow, hlast⟩ := ih hafter hcs hrest
    refine ⟨last, ?_, ?_⟩
    · simp only [Scan.follow, hfollow]
      simp [hstay]
    · rcases hlast with hplain | ⟨rfl, rfl⟩ | ⟨d, hd, hblank⟩
      · exact .inl hplain
      · exact hopen.imp_right fun h => .inr ⟨c, rfl, h.2⟩
      · refine .inr (.inr ⟨d, ?_, hblank⟩)
        rw [List.getLast?_cons, Option.mem_def.1 hd]
        rfl

/-- An entry of its own: a line that is no comment, with no comment behind a blank, that ends with
its line feed or with a character that is not blank. -/
theorem entriesFrom_cons (hcomment : isComment cs = false)
    (hout : ∀ c ∈ cs, Scan.outside c = .plain) (huncut : Uncut cs)
    (hclosed : ∀ c ∈ cs.getLast?, Text.isBlank c = true → c = '\n') :
    entriesFrom [] .plain (cs :: lines) = cs :: entriesFrom [] .plain lines := by
  obtain ⟨last, hfollow, hlast⟩ := follow_of_uncut (.inl rfl) hout huncut
  have hplain : last = .plain := by
    rcases hlast with hplain | ⟨-, hplain⟩ | ⟨c, hc, hblank, hfeed⟩
    · exact hplain
    · exact hplain
    · exact absurd (hclosed c hc hblank) hfeed
  simp [entriesFrom, hcomment, hfollow, hplain]

theorem name?_of_isName (h : IsName name) (gap : Gap) (rest : List Char) :
    name? (name ++ (gap.chars ++ '=' :: rest)) = some (String.ofList name, '=' :: rest) := by
  obtain ⟨c, hc, hstarts⟩ := h.first
  have hall := List.all_eq_true.1 h.all
  have hsome : ((name ++ (gap.chars ++ '=' :: rest)).head?.map startsName).getD false = true := by
    rw [List.head?_append, Option.mem_def.1 hc]
    exact hstarts
  have hstop : ∀ d ∈ (gap.chars ++ '=' :: rest).head?, continuesName d = false := by
    intro d hd
    rw [List.head?_append, Option.mem_def, Option.or_eq_some_iff] at hd
    rcases hd with hd | ⟨-, hd⟩
    · by_contra hname
      rw [Bool.not_eq_false] at hname
      have hblank := gap.isBlank d (List.mem_of_head? hd)
      rw [isBlank_of_continuesName hname] at hblank
      cases hblank
    · cases hd
      decide
  have hname : (gap.chars ++ '=' :: rest).takeWhile continuesName = [] ∧
      (gap.chars ++ '=' :: rest).dropWhile continuesName = gap.chars ++ '=' :: rest := by
    cases hcs : gap.chars ++ '=' :: rest with
    | nil => exact ⟨rfl, rfl⟩
    | cons d ds =>
      rw [hcs] at hstop
      simp [hstop d rfl]
  have hrest : (gap.chars ++ '=' :: rest).dropWhile Text.isBlank = '=' :: rest :=
    Text.dropWhile_isBlank_append gap.isBlank (by rintro d ⟨⟩; decide)
  rw [name?, if_pos hsome, List.takeWhile_append_of_pos hall, List.dropWhile_append_of_pos hall,
    hname.1, hname.2, hrest, List.append_nil]

theorem assignment?_of_isName (h : IsName name) (gap : Gap) (rest : List Char) :
    assignment? (name ++ (gap.chars ++ '=' :: rest))
      = some (String.ofList name, rest.dropWhile Text.isBlank) := by
  simp only [assignment?, name?_of_isName h gap rest]

theorem valueFrom_of_plain (h : cs.all isPlain = true) :
    valueFrom environment .text false cs = some cs := by
  induction cs with
  | nil => rfl
  | cons c cs ih =>
    rw [List.all_cons, Bool.and_eq_true] at h
    obtain ⟨hc, hcs⟩ := h
    simp only [isPlain, Bool.not_eq_true', List.contains_cons, List.contains_nil,
      Bool.or_eq_false_iff, beq_eq_false_iff_ne] at hc
    simp [valueFrom, hc, ih hcs]

theorem value?_of_isValue (h : IsValue value) :
    value? environment value = some (String.ofList value) := by
  rw [value?, if_neg h.clear.first, valueFrom_of_plain h.plain]
  rfl

theorem exists_trimChars_line (hname : IsName name) (hvalue : IsValue value) (spacing : Spacing) :
    ∃ rest, Text.trimChars (spacing.line name value)
        = name ++ (spacing.before.chars ++ '=' :: rest) ∧ rest.dropWhile Text.isBlank = value := by
  obtain ⟨left, before, after, right⟩ := spacing
  have htrims := Text.trims_trimChars value
  rw [hvalue.trimmed] at htrims
  cases value with
  | nil =>
    refine ⟨[], Text.trimChars_of_trims ⟨⟨left.chars, after.chars ++ right.chars, ?_,
      left.isBlank, ?_⟩, hname.isBlank_head _, ?_⟩, rfl⟩
    · simp [Spacing.line]
    · intro c hc
      exact (List.mem_append.1 hc).elim (after.isBlank c) (right.isBlank c)
    · simp [show Text.isBlank '=' = false by decide]
  | cons c cs =>
    have hrest := Text.dropWhile_isBlank_append after.isBlank htrims.first
    refine ⟨after.chars ++ c :: cs, Text.trimChars_of_trims ⟨⟨left.chars, right.chars, ?_,
      left.isBlank, right.isBlank⟩, hname.isBlank_head _, ?_⟩, hrest⟩
    · simp [Spacing.line]
    · intro d hd
      apply htrims.last d
      simpa [List.getLast?_append, List.getLast?_cons] using hd

theorem read_line (hname : IsName name) (hvalue : IsValue value) (spacing : Spacing) :
    Entry.read environment (spacing.line name value)
      = .setting (String.ofList name) (String.ofList value) := by
  obtain ⟨rest, htrim, hrest⟩ := exists_trimChars_line hname hvalue spacing
  have hassignment := assignment?_of_isName hname spacing.before rest
  obtain ⟨c, hc, hstarts⟩ := hname.first
  obtain ⟨cs, rfl⟩ := List.head?_eq_some_iff.1 hc
  have hcomment : c ≠ '#' := by
    rintro rfl
    exact absurd hstarts (by decide)
  rw [List.cons_append] at htrim hassignment
  unfold Entry.read
  simp only [htrim, hcomment, if_false, hassignment, hrest, value?_of_isValue hvalue]

/-! ### Reading a line -/

theorem outside_line (hname : IsName name) (hvalue : IsValue value) (spacing : Spacing) :
    ∀ c ∈ spacing.line name value, Scan.outside c = .plain := by
  intro c hc
  simp only [Spacing.line, List.mem_append, List.mem_cons] at hc
  rcases hc with hc | hc | hc | rfl | hc | hc | hc
  · exact spacing.left.outside c hc
  · exact hname.outside c hc
  · exact spacing.before.outside c hc
  · decide
  · exact spacing.after.outside c hc
  · exact hvalue.outside c hc
  · exact spacing.right.outside c hc

theorem clear_line (hname : IsName name) (hvalue : IsValue value) (spacing : Spacing) :
    Clear (spacing.line name value) := by
  have hequals : Clear ['='] := clear_of_not_mem (by decide)
  have hright : Clear (spacing.after.chars ++ (value ++ spacing.right.chars)) :=
    spacing.after.clear.append (hvalue.clear.append spacing.right.clear)
  exact spacing.left.clear.append
    (hname.clear.append (spacing.before.clear.append (hequals.append hright)))

theorem isComment_line (hname : IsName name) (value : List Char) (spacing : Spacing) :
    isComment (spacing.line name value) = false := by
  obtain ⟨c, hc, hstarts⟩ := hname.first
  rw [isComment, Spacing.line,
    Text.dropWhile_isBlank_append spacing.left.isBlank (hname.isBlank_head _), List.head?_append,
    Option.mem_def.1 hc, decide_eq_false_iff_not]
  rintro ⟨⟩
  exact absurd hstarts (by decide)

def Gap.append (gap ending : Gap) : Gap where
  chars := gap.chars ++ ending.chars
  blank := by rw [List.all_append, gap.blank, ending.blank]; rfl

theorem Gap.isComment (gap : Gap) : isComment gap.chars = false := by
  rw [SettingsFile.isComment, Text.dropWhile_isBlank_eq_nil_iff.2 gap.blank]
  rfl

theorem Gap.read (gap : Gap) : Entry.read environment gap.chars = .nothing := by
  rw [Entry.read, Text.trimChars_eq_nil_iff.2 gap.blank]

/-- What a line adds to the environment. -/
def defined (environment : Environment) (pair : Option (String × String)) : Environment :=
  match pair with
  | some (name, value) => environment.define name value
  | none => environment

theorem adopt_line (environment : Environment) (h : Line line pair) (ending : Gap)
    (hclosed : ∀ c ∈ (line ++ ending.chars).getLast?, Text.isBlank c = true → c = '\n')
    (lines : List (List Char)) :
    environment.adopt (entriesFrom [] .plain ((line ++ ending.chars) :: lines))
      = (defined environment pair).adopt (entriesFrom [] .plain lines) := by
  cases h with
  | blank gap =>
    have hline : gap.chars ++ ending.chars = (gap.append ending).chars := rfl
    rw [hline] at hclosed ⊢
    rw [entriesFrom_cons (gap.append ending).isComment (gap.append ending).outside
      (gap.append ending).clear.uncut hclosed, Environment.adopt, (gap.append ending).read]
    rfl
  | comment gap text =>
    have hcomment : isComment (gap.chars ++ '#' :: text ++ ending.chars) = true := by
      rw [isComment, List.append_assoc, List.cons_append,
        Text.dropWhile_isBlank_append gap.isBlank (by rintro c ⟨⟩; decide)]
      rfl
    simp only [entriesFrom, hcomment]
    rfl
  | @assignment spacing name value hname hvalue =>
    have hline : spacing.line name.toList value.toList ++ ending.chars
        = { spacing with right := spacing.right.append ending }.line name.toList value.toList := by
      simp [Spacing.line, Gap.append]
    rw [hline] at hclosed ⊢
    rw [entriesFrom_cons (isComment_line hname _ _) (outside_line hname hvalue _)
      (clear_line hname hvalue _).uncut hclosed, Environment.adopt, read_line hname hvalue,
      String.ofList_toList, String.ofList_toList]
    rfl

/-! ### Reading a file -/

theorem lookup_defined (environment : Environment) (pair : Option (String × String))
    (pairs : List (String × String)) (name : String) :
    ((defined environment pair).lookup name).or (pairs.lookup name)
      = (environment.lookup name).or ((pair.toList ++ pairs).lookup name) := by
  cases pair with
  | none => rfl
  | some pair =>
    rw [defined, Environment.lookup_define, Option.or_assoc, Option.toList_some,
      List.singleton_append, List.lookup_cons]
    by_cases h : name = pair.1
    · simp [h]
    · simp [h, beq_eq_false_iff_ne.2 h]

theorem lookup_adopt_lists (h : Lists cs pairs) (environment : Environment) (name : String) :
    (environment.adopt (entriesFrom [] .plain (Text.lines cs))).lookup name
      = (environment.lookup name).or (pairs.lookup name) := by
  -- By induction on the lines.
  induction h generalizing environment with
  | nil => exact (Option.or_none).symm
  | @last line pair h feed closed =>
    have hlast := lookup_defined environment pair [] name
    rw [List.lookup_nil, Option.or_none, List.append_nil] at hlast
    obtain ⟨c, hc, hblank⟩ := closed
    have hline : line ≠ [] := List.ne_nil_of_mem (List.mem_of_getLast? hc)
    have hclosed : ∀ d ∈ (line ++ []).getLast?, Text.isBlank d = true → d = '\n' := by
      rw [List.append_nil, Option.mem_def.1 hc]
      rintro d ⟨⟩ hd
      rw [hblank] at hd
      cases hd
    have hadopt := adopt_line environment h .none hclosed []
    rw [Gap.none, List.append_nil] at hadopt
    rw [← hlast, Text.lines_of_not_mem feed hline, hadopt]
    rfl
  | @cons line cs pair pairs h feed rest ih =>
    have hclosed : ∀ c ∈ (line ++ ['\n']).getLast?, Text.isBlank c = true → c = '\n' := by
      simp
    have hadopt := adopt_line environment h ⟨['\n'], by decide⟩ hclosed
    rw [Text.lines_append_cons feed, ← lookup_defined, ← ih]
    exact congrArg (Environment.lookup · name) (hadopt _)

theorem Gap.head_append (gap : Gap) {cs : List Char} (h : cs.head? ≠ some '\ufeff') :
    (gap.chars ++ cs).head? ≠ some '\ufeff' := by
  rw [List.head?_append, Ne, Option.or_eq_some_iff]
  rintro (hgap | ⟨-, hcs⟩)
  · exact absurd (gap.isBlank _ (List.mem_of_head? hgap)) (by decide)
  · exact h hcs

theorem head_line (h : Line line pair) (hrest : rest.head? ≠ some '\ufeff') :
    (line ++ rest).head? ≠ some '\ufeff' := by
  cases h with
  | blank gap => exact gap.head_append hrest
  | comment gap text =>
    rw [List.append_assoc]
    exact gap.head_append (by simp)
  | assignment spacing hname hvalue =>
    rw [Spacing.line, List.append_assoc, List.append_assoc]
    apply spacing.left.head_append
    obtain ⟨c, hc, hstarts⟩ := hname.first
    rw [List.head?_append, Option.mem_def.1 hc]
    rintro ⟨⟩
    exact absurd hstarts (by decide)

/-- No byte order mark is passed over. -/
theorem head_lists (h : Lists cs pairs) : cs.head? ≠ some '\ufeff' := by
  cases h with
  | nil => nofun
  | last h =>
    have hend : ([] : List Char).head? ≠ some '\ufeff' := nofun
    simpa using head_line h hend
  | cons h => exact head_line h (by simp)

theorem entries_of_lists {text : String} (h : Lists text.toList pairs) :
    entries text = entriesFrom [] .plain (Text.lines text.toList) := by
  unfold entries
  split
  · next cs hcs => exact absurd (congrArg List.head? hcs) (head_lists h)
  · rfl

end SettingsFile

/-- The process comes before the file, and of two lines with one name the first counts. -/
theorem Environment.lookup_withFile {file : Option String} {pairs : List (String × String)}
    (h : SettingsFile.Plain file pairs) (environment : Environment) (name : String) :
    (environment.withFile file).lookup name = (environment.lookup name).or (pairs.lookup name) := by
  cases h with
  | absent => exact (Option.or_none).symm
  | text h =>
    rw [withFile, SettingsFile.entries_of_lists h]
    exact SettingsFile.lookup_adopt_lists h environment name

end DetectionRule.CommandLine
