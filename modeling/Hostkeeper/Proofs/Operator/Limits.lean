import Hostkeeper.Proofs.Operator.Setting
import Mathlib.Algebra.Ring.Int.Defs

/-! Accepted settings beside the types that the store's schema declares for their columns. The store refuses a
datum that is not of the declared type. What is accepted for a field is of that type, but for some bounds, and for
repetitions in a set, that no reader looks at. -/
namespace Hostkeeper

/-- The values that a column is declared for: texts, all or some words, and signed numbers of 64 bits within bounds. -/
inductive ValueType where
  | text (words : Option (List String))
  | integer (least most : Option Int)
  deriving DecidableEq, Repr

def ValueType.admits : ValueType → Json → Bool
  | .text words,.text s => words.all (s ∈ ·)
  | .integer least most,.int n => -2 ^ 63 ≤ n && n < 2 ^ 63 && least.all (· ≤ n) && most.all (n ≤ ·)
  | _,_ => false

/-- What is declared for a column: the type of its values, and how many of them there may be. -/
structure Declaration where
  values : ValueType
  least : Nat := 0
  most : Option Nat := some 1
  deriving DecidableEq, Repr

namespace Declaration

/-- The values in a datum. A set lists them, and any other datum is one value. -/
def elements : Json → List Json
  | .list [.text "set",.list values] => values
  | value => [value]

def admits (d : Declaration) (datum : Json) : Bool :=
  let values := elements datum
  d.least ≤ values.length && d.most.all (values.length ≤ ·) && values.Nodup && values.all d.values.admits

variable (type : ValueType)

theorem admits_text (s : String) :
    admits {values := type} (Wire.encode (.text s)) = type.admits (.text s) := by
  rw [Wire.encode_atom (.text s) trivial]
  simp [admits,elements]

theorem admits_nat_iff (least : Int) (most : Option Int) (n : Nat) :
    admits {values := .integer (some least) most} (Wire.encode (.int n)) ↔
      (n : Int) < 2 ^ 63 ∧ least ≤ n ∧ ∀ bound ∈ most, (n : Int) ≤ bound := by
  rw [Wire.encode_atom (.int n) trivial]
  simp [admits,elements,ValueType.admits,and_assoc,Option.all_eq_true]

theorem admits_texts (texts : List String) :
    admits {values := .text none, most := none} (Wire.encode (.list (texts.map .text))) =
      (texts.map Json.text).Nodup := by
  have listed : elements (Wire.encode (.list (texts.map .text))) = texts.map .text := by
    rw [Wire.encode,Wire.encodeItems_texts]
    rfl
  simp [admits,listed,ValueType.admits]

end Declaration

/-- The declarations in the schema for the table of a resource. -/
def Resource.declaration? : Resource → String → Option Declaration
  | .system,"hostname" => some {values := .text none}
  | .system,"timezone" => some {values := .text none}
  | .system,"logging_level" => some {values := .text (some ["debug","info","warning","error","critical"])}
  | .interface,"name" => some {values := .text none, least := 1}
  | .interface,"ip" => some {values := .text none}
  | .interface,"state" => some {values := .text (some ["up","down"])}
  | .interface,"mtu" => some {values := .integer (some 0) (some 65535)}
  | .interface,"vlan" => some {values := .integer (some 0) (some 4094)}
  | .vm,"name" => some {values := .text none, least := 1}
  | .vm,"cpu" => some {values := .integer (some 1) none}
  | .vm,"ram" => some {values := .integer (some 1) none}
  | .vm,"disk_path" => some {values := .text none}
  | .vm,"pci_passthrough" => some {values := .text none, most := none}
  | .vm,"state" => some {values := .text (some ["run","stop"])}
  | _,_ => none

namespace Setting

variable {r : Resource} {key raw : String} {value : Json}

/-- The bounds of the declarations that no reader checks, and the repetitions. -/
def Unchecked : Resource → String → Json → Prop
  | .interface,"mtu",.int n => 65535 < n
  | .vm,"cpu",.int n => n = 0
  | .vm,"ram",.int n => n = 0 ∨ 2 ^ 63 ≤ n
  | .vm,"pci_passthrough",.list items => ¬items.Nodup
  | _,_,_ => False

/-- What is accepted for a field is of the type that its column is declared with, unless it is a transmission unit over
65535, no processor, no memory or 2⁶³ of it and more, or a list that names a device twice. Those are accepted too. -/
theorem accepted_values_are_admitted_iff (accepted : coerce r key raw = .ok value) :
    ∃ d, r.declaration? key = some d ∧ (d.admits (Wire.encode value) ↔ ¬Unchecked r key value) := by
  cases accepts_of_coerce accepted with
  | address | hostname | timezone | disk =>
    exact ⟨_,rfl,by simp [Declaration.admits_text,ValueType.admits,Unchecked]⟩
  | link w | level w | power w =>
    exact ⟨_,rfl,by cases w <;> simp [Declaration.admits_text,ValueType.admits,Unchecked,Word.text]⟩
  | mtu n =>
    refine ⟨_,rfl,?_⟩
    simp only [Declaration.admits_nat_iff,Option.mem_some,forall_eq',Unchecked]
    omega
  | vlan n _ bound =>
    refine ⟨_,rfl,iff_of_true ?_ id⟩
    simp only [Declaration.admits_nat_iff,Option.mem_some,forall_eq']
    omega
  | cpu n =>
    have small : n.toNat < 4294967296 := n.toNat_lt
    refine ⟨_,rfl,?_⟩
    simp only [Declaration.admits_nat_iff,Option.not_mem_none,false_imp_iff,implies_true,and_true,Unchecked]
    omega
  | ram n =>
    refine ⟨_,rfl,?_⟩
    simp only [Declaration.admits_nat_iff,Option.not_mem_none,false_imp_iff,implies_true,and_true,Unchecked]
    omega
  | devices => exact ⟨_,rfl,by simp [Declaration.admits_texts,Unchecked]⟩

theorem greatest_memory_is_admitted : coerce .vm "ram" " +9223372036854775807 " = .ok (.int 9223372036854775807) ∧
    ∃ d, Resource.vm.declaration? "ram" = some d ∧ d.admits (Wire.encode (.int 9223372036854775807)) := by
  have accepted : coerce .vm "ram" " +9223372036854775807 " = .ok (.int 9223372036854775807) := by decide +kernel
  obtain ⟨d,declared,admitted⟩ := accepted_values_are_admitted_iff accepted
  exact ⟨accepted,d,declared,admitted.mpr (by simp [Unchecked])⟩

/-- The setting is accepted, and its value is not of the declared type. -/
def AcceptedAmiss (r : Resource) (key raw : String) : Prop :=
  ∃ value d, coerce r key raw = .ok value ∧ r.declaration? key = some d ∧ d.admits (Wire.encode value) = false

theorem refused_settings_are_accepted : AcceptedAmiss .interface "mtu" "70000" ∧ AcceptedAmiss .vm "cpu" "0" ∧
    AcceptedAmiss .vm "ram" "9223372036854775808" ∧
    AcceptedAmiss .vm "pci_passthrough" "0000:01:00.0,0000:01:00.0" := by
  refine ⟨⟨.int 70000,_,?_,rfl,?_⟩,⟨.int 0,_,?_,rfl,?_⟩,⟨.int 9223372036854775808,_,?_,rfl,?_⟩,
    ⟨.list [.text "0000:01:00.0",.text "0000:01:00.0"],_,?_,rfl,?_⟩⟩ <;> decide +kernel

end Setting

end Hostkeeper
