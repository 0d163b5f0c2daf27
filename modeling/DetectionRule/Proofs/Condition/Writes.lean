import DetectionRule.Proofs.Condition.LastGiven
import Mathlib.Data.List.Induction

/-!
# Stored attributes as the outcome of writes

Whatever is done to stored attributes comes down to writes: one attribute gets a value, one
attribute is taken away, or all are. The last write that concerns an attribute decides its value,
and the attributes stand in the order of the writes with which their presence began. A value given
to an attribute that is present does not begin it anew; taken away and given again, the attribute
comes last. Main statement: `run_follows_writes`.
-/

namespace DetectionRule.Attributes

inductive Operation
  | set (attr : Attribute) (value : Option String)
  | remove (attr : Attribute)
  | merge (other : Attributes)
  | clear
deriving DecidableEq

def apply (stored : Attributes) : Operation → Attributes
  | .set attr value => stored.set attr value
  | .remove attr => stored.erase attr
  | .merge other => stored.merge other
  | .clear => stored.clear

def run (operations : List Operation) : Attributes := operations.foldl apply empty

/-! ### Writes -/

inductive Write
  | put (attr : Attribute) (value : String)
  | remove (attr : Attribute)
  | clear
deriving DecidableEq

/-- A value with which an attribute counts as not given takes the attribute away. -/
def Write.ofSetting (attr : Attribute) (value : Option String) : Write :=
  match value.bind kept? with
  | some value => .put attr value
  | none => .remove attr

/-- A merge sets the entries of the other attributes in their order. -/
def Operation.writes : Operation → List Write
  | .set attr value => [.ofSetting attr value]
  | .remove attr => [.remove attr]
  | .merge other => other.entries.map fun entry => .ofSetting entry.1 (some entry.2)
  | .clear => [.clear]

def writes (operations : List Operation) : List Write := operations.flatMap Operation.writes

def Write.concerns (attr : Attribute) : Write → Bool
  | .put other _ | .remove other => attr = other
  | .clear => true

def Write.value? : Write → Option String
  | .put _ value => some value
  | .remove _ | .clear => none

/-- The value that the last write about the attribute, or about all, leaves to it. -/
def valueAfter? (attr : Attribute) (ws : List Write) : Option String :=
  (ws.filter (Write.concerns attr)).getLast?.bind Write.value?

/-- The presence of the attribute at the end of the writes began with the one at place `i`. -/
structure StartedAt (attr : Attribute) (ws : List Write) (i : Nat) : Prop where
  put : ∃ value, ws[i]? = some (.put attr value)
  absent : valueAfter? attr (ws.take i) = none
  present : ∀ j, i < j → j ≤ ws.length → (valueAfter? attr (ws.take j)).isSome = true

variable {attr other : Attribute} {value : String} {w : Write} {ws : List Write} {i : Nat}
  {stored : Attributes} {operations : List Operation}

theorem valueAfter?_append_singleton :
    valueAfter? attr (ws ++ [w]) = if w.concerns attr then w.value? else valueAfter? attr ws := by
  unfold valueAfter?
  rw [List.filter_append]
  by_cases h : w.concerns attr = true
  · rw [List.filter_cons_of_pos h, if_pos h, List.filter_nil, List.getLast?_concat]
    rfl
  · rw [List.filter_cons_of_neg h, if_neg h, List.filter_nil, List.append_nil]

theorem eq_put_of_isSome (h : (valueAfter? attr (ws ++ [w])).isSome = true)
    (absent : valueAfter? attr ws = none) : ∃ value, w = .put attr value := by
  rw [valueAfter?_append_singleton, absent] at h
  cases w with
  | put other value =>
    by_cases ho : attr = other
    · exact ⟨value, ho ▸ rfl⟩
    · simp [Write.concerns, ho] at h
  | remove other => simp [Write.value?] at h
  | clear => simp [Write.value?] at h

theorem StartedAt.lt_length (h : StartedAt attr ws i) : i < ws.length := by
  obtain ⟨value, hi⟩ := h.put
  exact (List.getElem?_eq_some_iff.1 hi).1

theorem StartedAt.isSome (h : StartedAt attr ws i) : (valueAfter? attr ws).isSome = true := by
  have hend := h.present ws.length h.lt_length (Nat.le_refl _)
  rwa [List.take_length] at hend

theorem startedAt_append_singleton :
    StartedAt attr (ws ++ [w]) i ↔
      (valueAfter? attr (ws ++ [w])).isSome = true ∧
        (StartedAt attr ws i ∨ valueAfter? attr ws = none ∧ i = ws.length) := by
  have hlength : (ws ++ [w]).length = ws.length + 1 := List.length_append
  have htake : ∀ j, j ≤ ws.length → (ws ++ [w]).take j = ws.take j := fun j hj =>
    List.take_append_of_le_length hj
  constructor
  · intro h
    refine ⟨h.isSome, ?_⟩
    have hi := h.lt_length
    rw [hlength] at hi
    by_cases hlast : i = ws.length
    · have habsent := h.absent
      rw [hlast, htake ws.length (Nat.le_refl _), List.take_length] at habsent
      exact .inr ⟨habsent, hlast⟩
    · have hlt : i < ws.length := by omega
      obtain ⟨value, hput⟩ := h.put
      rw [List.getElem?_append_left hlt] at hput
      refine .inl ⟨⟨value, hput⟩, htake i (Nat.le_of_lt hlt) ▸ h.absent, ?_⟩
      intro j hij hj
      exact htake j hj ▸ h.present j hij (by omega)
  · rintro ⟨hsome, hold | ⟨habsent, rfl⟩⟩
    · have hi := hold.lt_length
      obtain ⟨value, hput⟩ := hold.put
      refine ⟨⟨value, ?_⟩, ?_, ?_⟩
      · rwa [List.getElem?_append_left hi]
      · rw [htake i (Nat.le_of_lt hi)]
        exact hold.absent
      · intro j hij hj
        by_cases hend : j ≤ ws.length
        · rw [htake j hend]
          exact hold.present j hij hend
        · rwa [List.take_of_length_le (by omega)]
    · obtain ⟨value, rfl⟩ := eq_put_of_isSome hsome habsent
      refine ⟨⟨value, List.getElem?_concat_length⟩, ?_, ?_⟩
      · rwa [htake ws.length (Nat.le_refl _), List.take_length]
      · intro j hij hj
        rwa [List.take_of_length_le (by omega)]

/-- Where the attribute was present before, its presence began before. -/
theorem StartedAt.of_append_singleton (h : StartedAt attr (ws ++ [w]) i)
    (present : (valueAfter? attr ws).isSome = true) : StartedAt attr ws i := by
  rcases (startedAt_append_singleton.1 h).2 with hold | ⟨habsent, -⟩
  · exact hold
  · rw [habsent] at present
    cases present

theorem exists_startedAt_iff :
    (∃ i, StartedAt attr ws i) ↔ (valueAfter? attr ws).isSome = true := by
  refine ⟨fun ⟨_, h⟩ => h.isSome, fun h => ?_⟩
  induction ws using List.reverseRecOn with
  | nil => cases h
  | append_singleton ws w ih =>
    cases hbefore : valueAfter? attr ws with
    | none => exact ⟨ws.length, startedAt_append_singleton.2 ⟨h, .inr ⟨hbefore, rfl⟩⟩⟩
    | some value =>
      obtain ⟨i, hi⟩ := ih (hbefore ▸ rfl)
      exact ⟨i, startedAt_append_singleton.2 ⟨h, .inl hi⟩⟩

def write (stored : Attributes) : Write → Attributes
  | .put attr value => stored.put attr value
  | .remove attr => stored.erase attr
  | .clear => stored.clear

theorem set_eq_write (value : Option String) :
    stored.set attr value = stored.write (.ofSetting attr value) := by
  cases value with
  | none => rfl
  | some value =>
    by_cases hv : isUnset (some value) = true
    · have hsetting : Write.ofSetting attr (some value) = .remove attr := by
        rw [Write.ofSetting, Option.bind_some, kept?, if_pos hv]
      rw [set, if_pos hv, hsetting]
      rfl
    · have hsetting : Write.ofSetting attr (some value) = .put attr value := by
        rw [Write.ofSetting, Option.bind_some, kept?, if_neg hv]
      rw [set, if_neg hv, hsetting]
      rfl

theorem apply_eq_foldl (operation : Operation) :
    stored.apply operation = operation.writes.foldl write stored := by
  cases operation with
  | set attr value => exact set_eq_write value
  | remove attr => rfl
  | clear => rfl
  | merge other =>
    have hset : (fun (stored : Attributes) (entry : Attribute × String) =>
          stored.set entry.1 (some entry.2))
        = fun stored entry => stored.write (.ofSetting entry.1 (some entry.2)) := by
      funext stored entry
      exact set_eq_write (some entry.2)
    rw [Operation.writes, List.foldl_map, ← hset]
    rfl

theorem run_eq_foldl (operations : List Operation) :
    run operations = (writes operations).foldl write empty := by
  have happly : apply = fun stored operation => operation.writes.foldl write stored := by
    funext stored operation
    exact apply_eq_foldl operation
  rw [run, writes, List.foldl_flatMap, happly]

theorem get?_write (distinct : stored.keys.Nodup) :
    (stored.write w).get? attr = if w.concerns attr then w.value? else stored.get? attr := by
  cases w with
  | put other value =>
    simp only [write, Write.concerns, decide_eq_true_eq]
    exact lookup_putEntry
  | remove other =>
    simp only [write, Write.concerns, decide_eq_true_eq]
    exact lookup_eraseP distinct
  | clear => rfl

theorem nodup_keys_write (distinct : stored.keys.Nodup) : (stored.write w).keys.Nodup := by
  cases w with
  | put attr value => exact nodup_keys_put distinct
  | remove attr => exact nodup_keys_erase distinct
  | clear => exact List.nodup_nil

/-- The stored attributes are what the writes leave, in the order in which they came in. -/
structure Follows (stored : Attributes) (ws : List Write) : Prop where
  distinct : stored.keys.Nodup
  value : ∀ attr, stored.get? attr = valueAfter? attr ws
  order : stored.keys.Pairwise fun first second =>
    ∀ i j, StartedAt first ws i → StartedAt second ws j → i < j

namespace Follows

theorem mem_keys_iff (h : Follows stored ws) :
    attr ∈ stored.keys ↔ (valueAfter? attr ws).isSome = true := by
  rw [← isSome_get?_iff, h.value]

/-- The attributes that a write leaves where they are keep their order. -/
theorem order_append_singleton (h : Follows stored ws) :
    stored.keys.Pairwise fun first second =>
      ∀ i j, StartedAt first (ws ++ [w]) i → StartedAt second (ws ++ [w]) j → i < j := by
  refine h.order.imp_of_mem ?_
  intro first second hfirst hsecond hlt i j hi hj
  exact hlt i j (hi.of_append_singleton (h.mem_keys_iff.1 hfirst))
    (hj.of_append_singleton (h.mem_keys_iff.1 hsecond))

theorem write (h : Follows stored ws) (w : Write) : Follows (stored.write w) (ws ++ [w]) where
  distinct := nodup_keys_write h.distinct
  value := by
    intro attr
    rw [get?_write h.distinct, valueAfter?_append_singleton, h.value]
  order := by
    cases w with
    | put attr value =>
      by_cases hm : attr ∈ stored.keys
      · rw [Attributes.write, keys_put_of_mem hm]
        exact h.order_append_singleton
      · rw [Attributes.write, keys_put_of_not_mem hm, List.pairwise_append]
        refine ⟨h.order_append_singleton, List.pairwise_singleton .., ?_⟩
        -- the new attribute begins with this write, all others began before it
        intro first hfirst second hsecond i j hi hj
        rw [List.mem_singleton] at hsecond
        subst hsecond
        have hold : i < ws.length :=
          (hi.of_append_singleton (h.mem_keys_iff.1 hfirst)).lt_length
        rcases (startedAt_append_singleton.1 hj).2 with hpresent | ⟨-, rfl⟩
        · exact absurd (h.mem_keys_iff.2 hpresent.isSome) hm
        · exact hold
    | remove attr =>
      rw [Attributes.write, keys_erase h.distinct]
      exact h.order_append_singleton.sublist List.filter_sublist
    | clear => exact List.Pairwise.nil

theorem foldl (ws : List Write) : Follows (ws.foldl Attributes.write empty) ws := by
  induction ws using List.reverseRecOn with
  | nil => exact ⟨List.nodup_nil, fun _ => rfl, List.Pairwise.nil⟩
  | append_singleton ws w ih =>
    rw [List.foldl_append]
    exact ih.write w

end Follows

/-! ### Whole runs -/

theorem follows_run (operations : List Operation) :
    Follows (run operations) (writes operations) := by
  rw [run_eq_foldl]
  exact .foldl (writes operations)

theorem run_append (more : List Operation) :
    run (operations ++ more) = (writes more).foldl write (run operations) := by
  rw [run_eq_foldl, run_eq_foldl, writes, List.flatMap_append, List.foldl_append]
  rfl

theorem run_follows_writes (operations : List Operation) :
    (∀ attr, (run operations).get? attr = valueAfter? attr (writes operations)) ∧
      (∀ attr, attr ∈ (run operations).keys ↔ ∃ i, StartedAt attr (writes operations) i) ∧
      ((run operations).keys.Pairwise fun first second => ∀ i j,
        StartedAt first (writes operations) i → StartedAt second (writes operations) j → i < j) ∧
      (∀ setting attr value, setting.writes = [.put attr value] → attr ∈ (run operations).keys →
        (run (operations ++ [setting])).keys = (run operations).keys) ∧
      ∀ removal setting attr value, removal.writes = [.remove attr] →
        setting.writes = [.put attr value] →
        (run (operations ++ [removal, setting])).keys =
          ((run operations).keys.filter fun other => other ≠ attr) ++ [attr] := by
  have h := follows_run operations
  refine ⟨h.value, ?_, h.order, ?_, ?_⟩
  · intro attr
    rw [h.mem_keys_iff, exists_startedAt_iff]
  · intro setting attr value hset hm
    have hwrites : writes [setting] = [.put attr value] := (List.flatMap_singleton ..).trans hset
    rw [run_append, hwrites]
    exact keys_put_of_mem hm
  · intro removal setting attr value hremove hset
    have hwrites : writes [removal, setting] = [.remove attr, .put attr value] := by
      rw [writes, List.flatMap_cons, List.flatMap_singleton, hremove, hset]
      rfl
    rw [run_append, hwrites]
    exact keys_put_erase h.distinct

/-- Everything taken away once, two attributes set to values with which they count as not given,
and one of the two given again by a merge, which overwrites another on its way. -/
def returningRun : List Operation :=
  [.set .name (some "early"), .clear, .set .type (some "pcre2"), .set .negate (some "yes"),
   .set .name (some "user"), .set .type (some "no"),
   .merge ⟨[(.negate, "maybe"), (.name, ""), (.type, "sregex")]⟩]

theorem run_follows_writes_returningRun :
    (run returningRun).entries = [(.negate, "maybe"), (.type, "sregex")] ∧
      (run returningRun).get? .negate = valueAfter? .negate (writes returningRun) ∧
      (∃ i, StartedAt .type (writes returningRun) i) ∧
      (¬∃ i, StartedAt .name (writes returningRun) i) ∧
      (run (returningRun ++ [.set .negate (some "yes")])).keys = [.negate, .type] ∧
      (run (returningRun ++ [.set .negate (some ""), .set .negate (some "yes")])).keys
        = [.type, .negate] := by
  have hkeys : (run returningRun).keys = [.negate, .type] := by decide
  obtain ⟨hvalue, hstarted, -, hover, hback⟩ := run_follows_writes returningRun
  refine ⟨by decide, hvalue .negate, ?_, ?_, ?_, ?_⟩
  · exact (hstarted .type).1 (by decide)
  · exact (hstarted .name).not.1 (by decide)
  · rw [hover (.set .negate (some "yes")) .negate "yes" (by decide) (by decide), hkeys]
  · rw [hback (.set .negate (some "")) (.set .negate (some "yes")) .negate "yes" (by decide)
      (by decide), hkeys]
    decide

end DetectionRule.Attributes
