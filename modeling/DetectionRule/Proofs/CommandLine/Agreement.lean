import DetectionRule.CommandLine.SettingsFile

/-!
# Environments that agree

Two environments may agree on all variables but some. They do so still when a settings file without
references is added to both: only a reference looks at the environment, so the entries are read
alike. Main statement: `AgreeExcept.withFile`.
-/

namespace DetectionRule.CommandLine

/-- The environments agree on every variable that is not among the named ones. -/
def Environment.AgreeExcept (names : List String) (environment other : Environment) : Prop :=
  ∀ name ∉ names, environment.lookup name = other.lookup name

variable {names : List String} {environment other : Environment} {cs rest : List Char} {c : Char}

namespace SettingsFile

def Part.refers : Part → Bool
  | reference _ => true
  | braced _ => true
  | _ => false

theorem valueFrom_congr (environment other : Environment) {part : Part} {quoted : Bool}
    (hpart : part.refers = false) (h : '$' ∉ cs) :
    valueFrom environment part quoted cs = valueFrom other part quoted cs := by
  -- By induction on the rest of the value; without a dollar sign it comes to no reference.
  induction cs generalizing part quoted with
  | nil => cases part <;> first | rfl | cases hpart
  | cons c cs ih =>
    rw [List.mem_cons, not_or] at h
    obtain ⟨hc, hcs⟩ := h
    have htext := fun quoted => @ih .text quoted rfl hcs
    have hescape := fun quoted => @ih .escape quoted rfl hcs
    have hsingle := fun quoted => @ih .single quoted rfl hcs
    have hending := fun quoted => @ih .ending quoted rfl hcs
    cases part with
    | text => simp only [valueFrom, if_neg (Ne.symm hc), htext, hescape, hsingle, hending]
    | escape => simp only [valueFrom, htext]
    | single => simp only [valueFrom, htext, hsingle]
    | reference name => cases hpart
    | braced name => cases hpart
    | ending => simp only [valueFrom, hending]

theorem value?_congr (environment other : Environment) (h : '$' ∉ cs) :
    value? environment cs = value? other cs := by
  rw [value?, value?, valueFrom_congr environment other rfl h]

theorem mem_of_mem_name? {name : String} (h : name? cs = some (name, rest)) (hc : c ∈ rest) :
    c ∈ cs := by
  unfold name? at h
  split at h
  · cases h
    exact (List.dropWhile_sublist _).subset ((List.dropWhile_sublist _).subset hc)
  · cases h

theorem mem_of_mem_assignment? {name : String} (h : assignment? cs = some (name, rest))
    (hc : c ∈ rest) : c ∈ cs := by
  unfold assignment? at h
  split at h
  · next hname =>
    cases h
    have hvalue := (List.dropWhile_sublist _).subset hc
    exact mem_of_mem_name? hname (List.mem_cons_of_mem _ hvalue)
  · next hexport =>
    split at h
    · next hname =>
      cases h
      have hvalue := (List.dropWhile_sublist _).subset hc
      exact mem_of_mem_name? hexport (mem_of_mem_name? hname (List.mem_cons_of_mem _ hvalue))
    · cases h
  · cases h

theorem Entry.read_congr (environment other : Environment) (h : '$' ∉ cs) :
    Entry.read environment cs = Entry.read other cs := by
  unfold Entry.read
  cases htrim : Text.trimChars cs with
  | nil => rfl
  | cons c trimmed =>
    cases hassignment : assignment? (c :: trimmed) with
    | none => simp only [hassignment]
    | some assignment =>
      obtain ⟨name, value⟩ := assignment
      have hvalue : '$' ∉ value := by
        intro hmem
        have htrimmed := mem_of_mem_assignment? hassignment hmem
        rw [← htrim] at htrimmed
        exact h (Text.mem_of_mem_trimChars htrimmed)
      simp only [hassignment, value?_congr environment other hvalue]

theorem mem_of_mem_follow {scan : Scan} (h : c ∈ (scan.follow cs).1) : c ∈ cs := by
  obtain ⟨rest, hrest⟩ := exists_follow_append scan cs
  rw [← hrest]
  exact List.mem_append_left rest h

theorem mem_of_mem_entriesFrom {held : List Char} {scan : Scan} {lines : List (List Char)}
    {entry : List Char} (h : entry ∈ entriesFrom held scan lines) (hc : c ∈ entry) :
    c ∈ held ∨ c ∈ lines.flatten := by
  -- By induction on the lines; what an entry holds so far came from those before.
  induction lines generalizing held scan with
  | nil => cases h
  | cons line lines ih =>
    rw [List.flatten_cons, List.mem_append]
    have hfirst : c ∈ held ++ (scan.follow line).1 → c ∈ held ∨ c ∈ line := by
      intro hc
      rw [List.mem_append] at hc
      exact hc.imp_right mem_of_mem_follow
    have hlater : ∀ scan, entry ∈ entriesFrom [] scan lines → c ∈ lines.flatten := by
      intro scan hentry
      exact (ih hentry).resolve_left List.not_mem_nil
    unfold entriesFrom at h
    split at h
    · exact .inr (.inr (hlater _ h))
    · split at h
      · next hfollow =>
        rw [hfollow] at hfirst
        rcases List.mem_cons.1 h with rfl | h
        · exact (hfirst hc).imp_right .inl
        · exact .inr (.inr (hlater _ h))
      · next hfollow =>
        rw [hfollow] at hfirst
        rcases List.mem_cons.1 h with rfl | h
        · exact (hfirst hc).imp_right .inl
        · exact .inr (.inr (hlater _ h))
      · next hfollow =>
        rw [hfollow] at hfirst
        rcases ih h with hheld | hline
        · exact (hfirst hheld).imp_right .inl
        · exact .inr (.inr hline)

theorem mem_of_mem_entries {text : String} {entry : List Char} (h : entry ∈ entries text)
    (hc : c ∈ entry) : c ∈ text.toList := by
  unfold entries at h
  split at h
  · next cs htext =>
    rcases mem_of_mem_entriesFrom h hc with hheld | hline
    · cases hheld
    · rw [Text.flatten_lines] at hline
      rw [htext]
      exact List.mem_cons_of_mem _ hline
  · rcases mem_of_mem_entriesFrom h hc with hheld | hline
    · cases hheld
    · rwa [Text.flatten_lines] at hline

end SettingsFile

/-! ### Adding to both -/

open SettingsFile

namespace Environment

theorem AgreeExcept.define_right {name : String} (h : environment.AgreeExcept names other)
    (hname : name ∈ names) (value : String) :
    environment.AgreeExcept names (other.define name value) := by
  intro wanted hwanted
  have hne : wanted ≠ name := fun heq => hwanted (heq ▸ hname)
  rw [lookup_define, if_neg hne, Option.or_none, h wanted hwanted]

theorem AgreeExcept.define (h : environment.AgreeExcept names other) (name value : String) :
    (environment.define name value).AgreeExcept names (other.define name value) := by
  intro wanted hwanted
  rw [lookup_define, lookup_define, h wanted hwanted]

theorem AgreeExcept.adopt {entries : List (List Char)} (h : environment.AgreeExcept names other)
    (hplain : ∀ entry ∈ entries, '$' ∉ entry) :
    (environment.adopt entries).AgreeExcept names (other.adopt entries) := by
  induction entries generalizing environment other with
  | nil => exact h
  | cons entry entries ih =>
    rw [List.forall_mem_cons] at hplain
    obtain ⟨hentry, hentries⟩ := hplain
    rw [Environment.adopt, Environment.adopt, Entry.read_congr environment other hentry]
    cases Entry.read other entry with
    | nothing => exact ih h hentries
    | setting name value => exact ih (h.define name value) hentries
    | unreadable => exact h

theorem AgreeExcept.withFile {file : Option String} (h : environment.AgreeExcept names other)
    (hplain : ∀ text ∈ file, '$' ∉ text.toList) :
    (environment.withFile file).AgreeExcept names (other.withFile file) := by
  cases file with
  | none => exact h
  | some text =>
    apply h.adopt
    intro entry hentry hdollar
    exact hplain text rfl (mem_of_mem_entries hentry hdollar)

end Environment

end DetectionRule.CommandLine
