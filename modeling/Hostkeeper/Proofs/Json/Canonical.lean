import Hostkeeper.Proofs.Decimal.Text
import Hostkeeper.Proofs.Json.Compact
import Hostkeeper.Proofs.Text.Numeral

/-! Compact text is canonical: equal texts are texts of one value. No text is of two numbers, so
that alike values are the same. -/
namespace Hostkeeper.Json

mutual

/-- Every number with a fraction or an exponent is a finite one, as in all data that JSON can carry. -/
def FiniteNumbers : Json → Prop
  | .real x => x.isFinite = true
  | .list items => FiniteNumbersItems items
  | .object fields => FiniteNumbersFields fields
  | .null | .bool _ | .int _ | .text _ => True

def FiniteNumbersItems : List Json → Prop
  | [] => True
  | item :: items => FiniteNumbers item ∧ FiniteNumbersItems items

def FiniteNumbersFields : List (String × Json) → Prop
  | [] => True
  | (_,value) :: fields => FiniteNumbers value ∧ FiniteNumbersFields fields

end

section Numbers

private theorem writeInt_nil (n : Int) :
    writeInt n [] = (if n < 0 then ['-'] else []) ++ Nat.toDigits 10 n.natAbs := List.append_nil _

private theorem writeReal_nil (x : Binary64) : writeReal x [] = x.write numberLayout := List.append_nil _

private theorem writeInt_inj {m n : Int} (same : writeInt m [] = writeInt n []) : m = n := by
  have unsigned (k : Nat) (rest : List Char) : Nat.toDigits 10 k ≠ '-' :: rest := by
    intro text
    have digit : '-'.isDigit = true := Decimal.Digits.toDigits k '-' (by simp [text])
    exact absurd digit (by decide)
  rw [writeInt_nil,writeInt_nil] at same
  split at same <;> split at same
  · have := Text.toDigits_inj (List.cons.inj same).2
    omega
  · exact absurd same.symm (unsigned _ _)
  · exact absurd same (unsigned _ _)
  · have := Text.toDigits_inj same
    omega

/-- A whole number has neither a point nor an exponent. -/
private theorem writeInt_unmarked (n : Int) : '.' ∉ writeInt n [] ∧ 'e' ∉ writeInt n [] := by
  have digits := Decimal.Digits.toDigits n.natAbs
  rw [writeInt_nil]
  constructor
  · rw [List.mem_append,not_or]
    exact ⟨by split <;> simp,digits.not_mem '.' (by decide)⟩
  · rw [List.mem_append,not_or]
    exact ⟨by split <;> simp,digits.not_mem 'e' (by decide)⟩

private theorem writeReal_marked (x : Binary64) : '.' ∈ writeReal x [] ∨ 'e' ∈ writeReal x [] := by
  rw [writeReal_nil,Binary64.write]
  exact (Decimal.write_marks _ _).2.imp (List.mem_append_right _) (List.mem_append_right _)

private theorem writeInt_ne_writeReal (n : Int) (x : Binary64) : writeInt n [] ≠ writeReal x [] := by
  intro same
  obtain ⟨point,exponent⟩ := writeInt_unmarked n
  rw [same] at point exponent
  exact (writeReal_marked x).elim point exponent

/-- Numbers of one text are one number, of one kind. -/
theorem eq_of_numeral {a b : Json} {t : List Char} (finite_a : a.FiniteNumbers) (finite_b : b.FiniteNumbers)
    (number_a : a.numeral? = some t) (number_b : b.numeral? = some t) : a = b := by
  match a, b with
  | .int m, .int n => exact congrArg Json.int (writeInt_inj (Option.some.inj (number_a.trans number_b.symm)))
  | .real x, .real y =>
    have texts : writeReal x [] = writeReal y [] := Option.some.inj (number_a.trans number_b.symm)
    rw [writeReal_nil,writeReal_nil] at texts
    exact congrArg Json.real (Decimal.write_inj finite_a finite_b texts)
  | .int n, .real x => exact absurd (Option.some.inj (number_a.trans number_b.symm)) (writeInt_ne_writeReal n x)
  | .real x, .int n => exact absurd (Option.some.inj (number_b.trans number_a.symm)) (writeInt_ne_writeReal n x)

end Numbers

section Values

mutual

theorem eq_of_alike : ∀ {a b : Json}, a.FiniteNumbers → b.FiniteNumbers → Alike a b → a = b
  | .null, .null, _, _, _ => rfl
  | .bool _, .bool _, _, _, alike => congrArg Json.bool alike
  | .text _, .text _, _, _, alike => congrArg Json.text alike
  | .list _, .list _, finite_a, finite_b, alike => congrArg Json.list (eq_of_alikeItems finite_a finite_b alike)
  | .object _, .object _, finite_a, finite_b, alike => congrArg Json.object (eq_of_alikeFields finite_a finite_b alike)
  | .int _, .int _, finite_a, finite_b, ⟨_,number_a,number_b⟩
  | .int _, .real _, finite_a, finite_b, ⟨_,number_a,number_b⟩
  | .real _, .int _, finite_a, finite_b, ⟨_,number_a,number_b⟩
  | .real _, .real _, finite_a, finite_b, ⟨_,number_a,number_b⟩ =>
    eq_of_numeral finite_a finite_b number_a number_b

theorem eq_of_alikeItems : ∀ {as bs : List Json}, FiniteNumbersItems as → FiniteNumbersItems bs →
    AlikeItems as bs → as = bs
  | [], [], _, _, _ => rfl
  | _ :: _, _ :: _, finite_a, finite_b, alike => by
    rw [eq_of_alike finite_a.1 finite_b.1 alike.1,eq_of_alikeItems finite_a.2 finite_b.2 alike.2]

theorem eq_of_alikeFields : ∀ {as bs : List (String × Json)}, FiniteNumbersFields as → FiniteNumbersFields bs →
    AlikeFields as bs → as = bs
  | [], [], _, _, _ => rfl
  | (_,_) :: _, (_,_) :: _, finite_a, finite_b, ⟨keys,alike,rest⟩ => by
    rw [keys,eq_of_alike finite_a.1 finite_b.1 alike,eq_of_alikeFields finite_a.2 finite_b.2 rest]

end

/-- Values have one compact text only if they are one value. Objects made of maps have it exactly when
the maps agree at every key, in whichever order the fields came. -/
theorem compact_injective {a b : Json} (finite_a : a.FiniteNumbers) (finite_b : b.FiniteNumbers) :
    (a.compact = b.compact ↔ a = b) ∧
    ∀ f g : Fields, a = .ofFields f → b = .ofFields g →
      (a.compact = b.compact ↔ ∀ key, f.get? key = g.get? key) := by
  have values : a.compact = b.compact ↔ a = b := by
    constructor
    · intro texts
      exact eq_of_alike finite_a finite_b ((compact_eq_iff a b).mp texts)
    · exact congrArg compact
  refine ⟨values,fun f g map_a map_b => values.trans ?_⟩
  rw [map_a,map_b]
  constructor
  · intro same key
    rw [KeyMap.ext (Json.object.inj same)]
  · intro same
    rw [KeyMap.ext_get? same]

/-- A text that spells the end of its own field and the start of another. -/
def spelled : Json :=
  .object [("a",.text "1\",\"b\":\"2"),("z",.list [.real (.zero true),.int 1])]

def fielded : Json :=
  .object [("a",.text "1"),("b",.text "2"),("z",.list [.real (.zero false),.real (.ofNat 1)])]

theorem spelled_ne_fielded : spelled.FiniteNumbers ∧ fielded.FiniteNumbers ∧ spelled.compact ≠ fielded.compact := by
  have finite_a : spelled.FiniteNumbers := by
    simp [spelled,FiniteNumbers,FiniteNumbersFields,FiniteNumbersItems]
    decide
  have finite_b : fielded.FiniteNumbers := by
    simp [fielded,FiniteNumbers,FiniteNumbersFields,FiniteNumbersItems]
    decide
  refine ⟨finite_a,finite_b,fun texts => ?_⟩
  exact absurd ((compact_injective finite_a finite_b).1.mp texts) (by decide)

end Values

end Hostkeeper.Json
