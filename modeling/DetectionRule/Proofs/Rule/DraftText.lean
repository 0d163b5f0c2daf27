import DetectionRule.Proofs.Json.Pointer
import DetectionRule.Proofs.Json.Reader
import DetectionRule.Rule.Draft
import Mathlib.Logic.Function.Basic

/-!
# The text of a draft

Drafts with one text are one draft. A header is known from its members, for a count that is absent
has none; handles, tags and attributes are known from their texts, and the attributes of a condition
are written in the order in which they are stored. Main statement: `Draft.pretty_toJson_inj`.
-/

namespace DetectionRule

theorem Handle.text_injective : Function.Injective Handle.text := by
  rintro ⟨i⟩ ⟨j⟩ h
  have hdigits : Text.Decimal.natural i = Text.Decimal.natural j := by
    apply String.toList_injective
    simpa [text] using congrArg String.toList h
  rw [Text.Decimal.natural_inj.1 hdigits]

theorem Header.toJson_injective : Function.Injective Header.toJson := by
  have hcount : Function.Injective fun count : Nat => Json.number count := by
    intro count other h
    exact Int.ofNat.inj (Json.number.inj h)
  have hfrequency : ∀ header : Header, header.toJson.child? "frequency"
      = header.frequency.map fun count => .number count := by
    rintro ⟨id, level, frequency, timeframe⟩
    cases frequency <;> cases timeframe <;> rfl
  have htimeframe : ∀ header : Header, header.toJson.child? "timeframe"
      = header.timeframe.map fun count => .number count := by
    rintro ⟨id, level, frequency, timeframe⟩
    cases frequency <;> cases timeframe <;> rfl
  intro header other h
  have hid : some (Json.number header.id) = some (.number other.id) :=
    congrArg (Json.child? "id") h
  have hlevel : some (Json.number header.level) = some (.number other.level) :=
    congrArg (Json.child? "level") h
  have hfrequencies := congrArg (Json.child? "frequency") h
  have htimeframes := congrArg (Json.child? "timeframe") h
  rw [hfrequency, hfrequency] at hfrequencies
  rw [htimeframe, htimeframe] at htimeframes
  obtain ⟨id, level, frequency, timeframe⟩ := header
  obtain rfl := Json.number.inj (Option.some.inj hid)
  obtain rfl := Json.number.inj (Option.some.inj hlevel)
  obtain rfl := Option.map_injective hcount hfrequencies
  obtain rfl := Option.map_injective hcount htimeframes
  rfl

theorem Attributes.toJson_injective : Function.Injective Attributes.toJson := by
  rintro ⟨entries⟩ ⟨others⟩ h
  have hentry : Function.Injective fun entry : Attribute × String =>
      (entry.1.text, Json.text entry.2) := by
    rintro ⟨attr, value⟩ ⟨other, text⟩ heq
    obtain ⟨hattr, hvalue⟩ := Prod.mk.inj heq
    exact Prod.ext (Attribute.text_inj.1 hattr) (Json.text.inj hvalue)
  obtain rfl : entries = others := List.map_injective_iff.2 hentry (Json.object.inj h)
  rfl

theorem Condition.toJson_injective : Function.Injective Condition.toJson := by
  rintro ⟨id, tag, value, attributes⟩ ⟨otherId, otherTag, otherValue, others⟩ h
  simp only [toJson, Json.object.injEq, List.cons.injEq, Prod.mk.injEq, Json.text.injEq, true_and,
    and_true] at h
  obtain ⟨hid, htag, rfl, hattributes⟩ := h
  obtain rfl := Handle.text_injective hid
  obtain rfl := Tag.text_inj.1 htag
  obtain rfl := Attributes.toJson_injective hattributes
  rfl

theorem Draft.toJson_injective : Function.Injective Draft.toJson := by
  rintro ⟨header, ⟨conditions⟩⟩ ⟨other, ⟨others⟩⟩ h
  simp only [toJson, Draft.conditions, Json.object.injEq, List.cons.injEq, Prod.mk.injEq,
    Json.array.injEq, true_and, and_true] at h
  obtain ⟨hheader, hconditions⟩ := h
  obtain rfl := Header.toJson_injective hheader
  obtain rfl := List.map_injective_iff.2 Condition.toJson_injective hconditions
  rfl

/-- For all drafts, whatever texts they hold: header, conditions and attributes are the same, each
in its place. -/
theorem Draft.pretty_toJson_inj (draft other : Draft) :
    draft.toJson.pretty = other.toJson.pretty ↔ draft = other := by
  rw [Json.pretty_inj]
  exact toJson_injective.eq_iff

end DetectionRule
