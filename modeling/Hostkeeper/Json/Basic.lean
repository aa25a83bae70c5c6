import Hostkeeper.Decimal.Shortest
import Hostkeeper.KeyMap

/-! JSON values. Integers and binary64 numbers are told apart; an object lists its fields, in key order without
repetition when it is `WellFormed`, so that well-formed values are equal exactly when they are the same data. -/
namespace Hostkeeper

inductive Json where
  | null
  | bool (value : Bool)
  | int (value : Int)
  | real (value : Binary64)
  | text (value : String)
  | list (items : List Json)
  | object (fields : List (String × Json))
  deriving Repr, Inhabited

abbrev Fields := KeyMap Json

namespace Json

mutual

/-- Whether two values are written alike, fields in the same order. -/
def same : Json → Json → Bool
  | .null, .null => true
  | .bool a, .bool b => a == b
  | .int a, .int b => a == b
  | .real a, .real b => a == b
  | .text a, .text b => a == b
  | .list a, .list b => sameItems a b
  | .object a, .object b => sameFields a b
  | _, _ => false

def sameItems : List Json → List Json → Bool
  | [], [] => true
  | a :: as, b :: bs => same a b && sameItems as bs
  | _, _ => false

def sameFields : List (String × Json) → List (String × Json) → Bool
  | [], [] => true
  | (k,a) :: as, (l,b) :: bs => k == l && same a b && sameFields as bs
  | _, _ => false

end

mutual

theorem eq_of_same : ∀ {a b : Json}, same a b = true → a = b
  | .null, .null, _ => rfl
  | .bool _, .bool _, h => by simp_all [same]
  | .int _, .int _, h => by simp_all [same]
  | .real _, .real _, h => by simp_all [same]
  | .text _, .text _, h => by simp_all [same]
  | .list _, .list _, h => congrArg Json.list (eq_of_sameItems (by simpa [same] using h))
  | .object _, .object _, h => congrArg Json.object (eq_of_sameFields (by simpa [same] using h))

theorem eq_of_sameItems : ∀ {a b : List Json}, sameItems a b = true → a = b
  | [], [], _ => rfl
  | a :: as, b :: bs, h => by
    rw [sameItems,Bool.and_eq_true] at h
    rw [eq_of_same h.1,eq_of_sameItems h.2]

theorem eq_of_sameFields : ∀ {a b : List (String × Json)}, sameFields a b = true → a = b
  | [], [], _ => rfl
  | (k,a) :: as, (l,b) :: bs, h => by
    simp only [sameFields,Bool.and_eq_true,beq_iff_eq] at h
    rw [h.1.1,eq_of_same h.1.2,eq_of_sameFields h.2]

end

mutual

theorem same_refl : ∀ a : Json, same a a = true
  | .null => rfl
  | .bool _ | .int _ | .real _ | .text _ => by simp [same]
  | .list items => by simp [same,sameItems_refl items]
  | .object fields => by simp [same,sameFields_refl fields]

theorem sameItems_refl : ∀ a : List Json, sameItems a a = true
  | [] => rfl
  | a :: as => by simp [sameItems,same_refl a,sameItems_refl as]

theorem sameFields_refl : ∀ a : List (String × Json), sameFields a a = true
  | [] => rfl
  | (_,a) :: as => by simp [sameFields,same_refl a,sameFields_refl as]

end

instance : DecidableEq Json := fun a b =>
  decidable_of_iff (same a b = true) ⟨eq_of_same,fun h => h ▸ same_refl a⟩

mutual

/-- Every object in the value lists its fields in strictly increasing key order. -/
def WellFormed : Json → Prop
  | .list items => WellFormedItems items
  | .object fields => fields.Pairwise (·.1 < ·.1) ∧ WellFormedFields fields
  | _ => True

def WellFormedItems : List Json → Prop
  | [] => True
  | item :: rest => WellFormed item ∧ WellFormedItems rest

def WellFormedFields : List (String × Json) → Prop
  | [] => True
  | (_,value) :: rest => WellFormed value ∧ WellFormedFields rest

end

def ofFields (fields : Fields) : Json := .object fields.entries

def ofBinary64 (x : Binary64) : Json := if x.isFinite then .real x else .null

def isNull : Json → Bool
  | .null => true
  | _ => false

def text? : Json → Option String
  | .text s => some s
  | _ => none

def items? : Json → Option (List Json)
  | .list items => some items
  | _ => none

/-- The fields of an object, in key order; the last of equal keys counts. -/
def fields? : Json → Option Fields
  | .object fields => some (.ofList fields)
  | _ => none

def field? (value : Json) (name : String) : Option Json :=
  value.fields?.bind (·.get? name)

end Json

end Hostkeeper
