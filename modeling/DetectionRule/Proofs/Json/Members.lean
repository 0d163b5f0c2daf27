import DetectionRule.Json.Basic
import Mathlib.Data.List.Nodup

/-!
# Members of objects

The order of the members of an object means nothing, as long as no name is there twice. Sorting such
an object keeps its members: of two with one name it would keep only one. The names then ascend, so
that a member may be taken away before or after. Main statements: `isObject_sorted` and
`dropMember_sorted`.
-/

namespace DetectionRule.Json

/-- The value is an object with just these members, whose names are distinct, in whatever order. -/
def IsObject (value : Json) (members : List (String × Json)) : Prop :=
  (members.map Prod.fst).Nodup ∧ ∃ stored, value = object stored ∧ stored.Perm members

def withoutName (name : String) (members : List (String × Json)) : List (String × Json) :=
  members.filter fun member => member.1 ≠ name

/-- An object without the members of a name; any other value as it is. -/
def dropMember (name : String) : Json → Json
  | object members => object (withoutName name members)
  | value => value

variable {name dropped : String} {value : Json} {member : String × Json}
  {members others : List (String × Json)}

theorem insertMember_perm (h : name ∉ members.map Prod.fst) :
    (insertMember name value members).Perm ((name, value) :: members) := by
  induction members with
  | nil => exact .refl _
  | cons member members ih =>
    rw [List.map_cons, List.mem_cons, not_or] at h
    rw [insertMember, if_neg h.1]
    split
    · exact .refl _
    · exact ((ih h.2).cons member).trans (.swap ..)

theorem sortedMembers_perm (h : (members.map Prod.fst).Nodup) :
    (sortedMembers members).Perm (members.map fun member => (member.1, member.2.sorted)) := by
  -- By induction on the members: the name of the first is not among the sorted others.
  induction members with
  | nil => exact .refl _
  | cons member members ih =>
    rw [List.map_cons, List.nodup_cons] at h
    have hothers := ih h.2
    have hnames : ((sortedMembers members).map Prod.fst).Perm (members.map Prod.fst) := by
      simpa [Function.comp_def] using hothers.map Prod.fst
    have hnew : member.1 ∉ (sortedMembers members).map Prod.fst := by
      rw [hnames.mem_iff]
      exact h.1
    rw [sortedMembers, List.map_cons]
    exact (insertMember_perm hnew).trans (hothers.cons _)

/-- The values may be sorted as well. -/
theorem isObject_sorted (h : (members.map Prod.fst).Nodup)
    (hvalues : (members.map fun member => (member.1, member.2.sorted)) = others) :
    (object members).sorted.IsObject others := by
  subst hvalues
  refine ⟨?_, sortedMembers members, ?_, sortedMembers_perm h⟩
  · simpa [Function.comp_def] using h
  · rw [sorted]

theorem sortedItems_eq_map (items : List Json) : sortedItems items = items.map sorted := by
  induction items with
  | nil => rfl
  | cons item items ih => rw [sortedItems, ih, List.map_cons]

def NamesAscend (members : List (String × Json)) : Prop :=
  members.Pairwise fun member other => member.1 < other.1

theorem mem_insertMember (h : member ∈ insertMember name value members) :
    member = (name, value) ∨ member ∈ members := by
  induction members with
  | nil => exact .inl (List.mem_singleton.1 h)
  | cons first members ih =>
    rw [insertMember] at h
    split at h
    · exact List.mem_cons.1 h
    · split at h
      · exact .inr h
      · rcases List.mem_cons.1 h with rfl | h
        · exact .inr (List.mem_cons_self ..)
        · exact (ih h).imp_right (List.mem_cons_of_mem _)

theorem NamesAscend.insertMember (h : NamesAscend members) (name : String) (value : Json) :
    NamesAscend (insertMember name value members) := by
  induction members with
  | nil => exact List.pairwise_singleton _ _
  | cons first members ih =>
    obtain ⟨hfirst, hrest⟩ := List.pairwise_cons.1 h
    rw [Json.insertMember]
    split
    · next hlt =>
      refine List.pairwise_cons.2 ⟨?_, h⟩
      intro member hmember
      rcases List.mem_cons.1 hmember with rfl | hmember
      · exact hlt
      · exact String.lt_trans hlt (hfirst member hmember)
    · next hnotLt =>
      split
      · exact h
      · next hne =>
        have hbefore : first.1 < name := by
          by_contra hnotBefore
          exact hne (String.le_antisymm (String.not_lt.1 hnotBefore) (String.not_lt.1 hnotLt))
        refine List.pairwise_cons.2 ⟨?_, ih hrest⟩
        intro member hmember
        rcases mem_insertMember hmember with rfl | hmember
        · exact hbefore
        · exact hfirst member hmember

theorem namesAscend_sortedMembers (members : List (String × Json)) :
    NamesAscend (sortedMembers members) := by
  induction members with
  | nil => exact List.Pairwise.nil
  | cons member members ih => exact ih.insertMember member.1 member.2.sorted

/-! ### Taking a member away -/

theorem withoutName_cons_of_eq (h : member.1 = name) :
    withoutName name (member :: members) = withoutName name members := by
  rw [withoutName, List.filter_cons_of_neg (by simp [h])]
  rfl

theorem withoutName_cons_of_ne (h : member.1 ≠ name) :
    withoutName name (member :: members) = member :: withoutName name members := by
  rw [withoutName, List.filter_cons_of_pos (by simp [h])]
  rfl

theorem withoutName_insertMember_self :
    withoutName name (insertMember name value members) = withoutName name members := by
  induction members with
  | nil => exact withoutName_cons_of_eq rfl
  | cons first members ih =>
    rw [insertMember]
    split
    · exact withoutName_cons_of_eq rfl
    · next hnotLt =>
      split
      · rfl
      · next hne =>
        rw [withoutName_cons_of_ne (Ne.symm hne), withoutName_cons_of_ne (Ne.symm hne), ih]

theorem insertMember_of_forall_lt (h : ∀ member ∈ members, name < member.1) :
    insertMember name value members = (name, value) :: members := by
  cases members with
  | nil => rfl
  | cons first members => rw [insertMember, if_pos (h first (List.mem_cons_self ..))]

theorem withoutName_insertMember_of_ne (hne : name ≠ dropped) (h : NamesAscend members) :
    withoutName dropped (insertMember name value members)
      = insertMember name value (withoutName dropped members) := by
  -- By induction on the members; a name that comes before the first comes before all of them.
  induction members with
  | nil => exact withoutName_cons_of_ne hne
  | cons first members ih =>
    obtain ⟨hfirst, hrest⟩ := List.pairwise_cons.1 h
    by_cases hlt : name < first.1
    · have hbefore : ∀ member ∈ withoutName dropped (first :: members), name < member.1 := by
        intro member hmember
        rcases List.mem_cons.1 (List.mem_of_mem_filter hmember) with rfl | hmember
        · exact hlt
        · exact String.lt_trans hlt (hfirst member hmember)
      rw [insertMember_of_forall_lt hbefore, insertMember, if_pos hlt, withoutName_cons_of_ne hne]
    · by_cases heq : name = first.1
      · have hkept : first.1 ≠ dropped := heq ▸ hne
        rw [withoutName_cons_of_ne hkept, insertMember, if_neg hlt, if_pos heq, insertMember,
          if_neg hlt, if_pos heq, withoutName_cons_of_ne hkept]
      · rw [insertMember, if_neg hlt, if_neg heq]
        by_cases hdropped : first.1 = dropped
        · rw [withoutName_cons_of_eq hdropped, withoutName_cons_of_eq hdropped, ih hrest]
        · rw [withoutName_cons_of_ne hdropped, withoutName_cons_of_ne hdropped, ih hrest,
            insertMember, if_neg hlt, if_neg heq]

theorem withoutName_sortedMembers (name : String) (members : List (String × Json)) :
    withoutName name (sortedMembers members) = sortedMembers (withoutName name members) := by
  induction members with
  | nil => rfl
  | cons member members ih =>
    rw [sortedMembers]
    by_cases hdropped : member.1 = name
    · rw [withoutName_cons_of_eq hdropped, ← ih, hdropped, withoutName_insertMember_self]
    · rw [withoutName_cons_of_ne hdropped, sortedMembers, ← ih,
        withoutName_insertMember_of_ne hdropped (namesAscend_sortedMembers members)]

theorem dropMember_sorted (name : String) (value : Json) :
    value.sorted.dropMember name = (value.dropMember name).sorted := by
  cases value with
  | object members => rw [sorted, dropMember, dropMember, sorted, withoutName_sortedMembers]
  | _ => simp only [sorted, dropMember]

end DetectionRule.Json
