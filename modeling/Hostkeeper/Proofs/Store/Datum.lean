import Hostkeeper.Proofs.KeyMap
import Hostkeeper.Store.Wire

/-! Plain JSON through its wire form and back. All that is lost is the difference between an empty
list and null. Plain lists that look like tagged data travel inside a set, so they are never taken
for it. -/
namespace Hostkeeper

namespace Json

mutual

/-- The value with null in place of every empty list. -/
def nulled : Json → Json
  | .list [] => .null
  | .list (item :: items) => .list (nulled item :: nulledItems items)
  | .object fields => .object (nulledFields fields)
  | atom => atom

def nulledItems : List Json → List Json
  | [] => []
  | item :: items => nulled item :: nulledItems items

def nulledFields : List (String × Json) → List (String × Json)
  | [] => []
  | (key,value) :: fields => (key,nulled value) :: nulledFields fields

end

mutual

/-- No list in the value is empty. -/
def Filled : Json → Prop
  | .list items => items ≠ [] ∧ FilledItems items
  | .object fields => FilledFields fields
  | _ => True

def FilledItems : List Json → Prop
  | [] => True
  | item :: items => Filled item ∧ FilledItems items

def FilledFields : List (String × Json) → Prop
  | [] => True
  | (_,value) :: fields => Filled value ∧ FilledFields fields

end

mutual

theorem nulled_eq_iff : ∀ v : Json, v.nulled = v ↔ v.Filled
  | .null | .bool _ | .int _ | .real _ | .text _ => by simp [nulled,Filled]
  | .list [] => by simp [nulled,Filled]
  | .list (item :: items) => by
    simp [nulled,Filled,FilledItems,nulled_eq_iff item,nulledItems_eq_iff items]
  | .object fields => by simp [nulled,Filled,nulledFields_eq_iff fields]

theorem nulledItems_eq_iff : ∀ items : List Json, nulledItems items = items ↔ FilledItems items
  | [] => by simp [nulledItems,FilledItems]
  | item :: items => by
    simp [nulledItems,FilledItems,nulled_eq_iff item,nulledItems_eq_iff items]

theorem nulledFields_eq_iff : ∀ fields : List (String × Json),
    nulledFields fields = fields ↔ FilledFields fields
  | [] => by simp [nulledFields,FilledFields]
  | (key,value) :: fields => by
    simp [nulledFields,FilledFields,nulled_eq_iff value,nulledFields_eq_iff fields]

end

theorem keys_nulledFields (fields : List (String × Json)) :
    (nulledFields fields).map (·.1) = fields.map (·.1) := by
  induction fields with
  | nil => rfl
  | cons field fields ih => rw [nulledFields,List.map_cons,List.map_cons,ih]

theorem sorted_nulledFields {fields : List (String × Json)} (sorted : fields.Pairwise (·.1 < ·.1)) :
    (nulledFields fields).Pairwise (·.1 < ·.1) := by
  have keys : (fields.map (·.1)).Pairwise (· < ·) := List.pairwise_map.mpr sorted
  rw [← keys_nulledFields] at keys
  exact List.pairwise_map.mp keys

end Json

namespace Wire

open Json

mutual

theorem decode_encode : ∀ {v : Json}, v.WellFormed → decode (encode v) = v.nulled
  | .null, _ | .bool _, _ | .int _, _ | .real _, _ | .text _, _ => by simp [encode,decode,nulled]
  | .list [], _ => by simp [encode,encodeItems,decode,nulled]
  | .list (item :: items), formed => by
    rw [encode,encodeItems,decode,decode_encode formed.1,decodeItems_encodeItems formed.2,nulled]
  | .object fields, formed => by
    rw [encode,decode,decodePairs_encodePairs formed.2,ofFields,
      KeyMap.entries_ofList (sorted_nulledFields formed.1),nulled]

theorem decodeItems_encodeItems : ∀ {items : List Json}, WellFormedItems items →
    decodeItems (encodeItems items) = nulledItems items
  | [], _ => rfl
  | item :: items, formed => by
    rw [encodeItems,decodeItems,decode_encode formed.1,decodeItems_encodeItems formed.2,nulledItems]

/-- Keys travel as texts, which stand for themselves, so they come back as they were. -/
theorem decodePairs_encodePairs : ∀ {fields : List (String × Json)}, WellFormedFields fields →
    decodePairs (encodePairs fields) = nulledFields fields
  | [], _ => rfl
  | (key,value) :: fields, formed => by
    have text : decode (.text key) = .text key := by simp [decode]
    rw [encodePairs,decodePairs,text,decode_encode formed.1,decodePairs_encodePairs formed.2,nulledFields]

end

mutual

theorem encode_nulled : ∀ v : Json, encode v.nulled = encode v
  | .null | .bool _ | .int _ | .real _ | .text _ => by rw [nulled] <;> simp
  | .list [] => by rw [nulled,encode,encode,encodeItems]
  | .list (item :: items) => by
    rw [nulled,encode,encode,encodeItems,encodeItems,encode_nulled item,encodeItems_nulled items]
  | .object fields => by rw [nulled,encode,encode,encodePairs_nulled fields]

theorem encodeItems_nulled : ∀ items : List Json, encodeItems (nulledItems items) = encodeItems items
  | [] => rfl
  | item :: items => by
    rw [nulledItems,encodeItems,encodeItems,encode_nulled item,encodeItems_nulled items]

theorem encodePairs_nulled : ∀ fields : List (String × Json),
    encodePairs (nulledFields fields) = encodePairs fields
  | [] => rfl
  | (key,value) :: fields => by
    rw [nulledFields,encodePairs,encodePairs,encode_nulled value,encodePairs_nulled fields]

end

/-- A value comes back with null for every empty list, so it comes back as it was exactly if it has
none. What encoding made is made again from what it decodes to. -/
theorem round_trip_nulls_empty_lists :
    (∀ v : Json, v.WellFormed → decode (encode v) = v.nulled ∧ (decode (encode v) = v ↔ v.Filled)) ∧
    ∀ w : Json, (∃ v : Json, v.WellFormed ∧ encode v = w) → encode (decode w) = w := by
  constructor
  · intro v formed
    rw [decode_encode formed]
    exact ⟨rfl,nulled_eq_iff v⟩
  · rintro w ⟨v,formed,rfl⟩
    rw [decode_encode formed,encode_nulled]

/-- Plain data that looks like a set, a map and a row reference, with an empty list at its end. -/
def lookalike : Json :=
  .object [("map",.list [.text "map",.list [.list [.text "set",.list []]]]),
    ("row",.list [.text "uuid",.text "x"])]

theorem lookalike_round_trip : lookalike.WellFormed ∧ ¬lookalike.Filled ∧
    decode (encode lookalike) = .object [("map",.list [.text "map",.list [.list [.text "set",.null]]]),
      ("row",.list [.text "uuid",.text "x"])] ∧
    encode (decode (encode lookalike)) = encode lookalike := by
  have formed : lookalike.WellFormed := by
    refine ⟨List.pairwise_pair.mpr (by decide +kernel),?_⟩
    simp only [WellFormedFields,WellFormed,WellFormedItems,and_self]
  obtain ⟨forth,back⟩ := round_trip_nulls_empty_lists
  obtain ⟨decoded,kept⟩ := forth lookalike formed
  refine ⟨formed,?_,decoded,back _ ⟨_,formed,rfl⟩⟩
  rw [← kept,decoded]
  decide

end Wire

end Hostkeeper
