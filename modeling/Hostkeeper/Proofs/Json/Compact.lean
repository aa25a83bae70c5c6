import Hostkeeper.Json.Printer
import Hostkeeper.Proofs.KeyMap
import Mathlib.Data.List.TakeWhile
import Mathlib.Tactic.IntervalCases

/-! Compact text determines a value up to numbers of equal text. Every piece of text ends where
its own shape says, so that what follows it is determined as well. -/
namespace Hostkeeper.Json

/-- The characters that number texts are made of. -/
def isNumeric (c : Char) : Bool := c.isDigit || c == '+' || c == '-' || c == '.' || c == 'e'

def numeral? : Json → Option (List Char)
  | .int n => some (writeInt n [])
  | .real x => some (writeReal x [])
  | _ => none

mutual

/-- Whether two values are the same, numbers compared by their texts. -/
def Alike : Json → Json → Prop
  | .null, .null => True
  | .bool a, .bool b => a = b
  | .text a, .text b => a = b
  | .list a, .list b => AlikeItems a b
  | .object a, .object b => AlikeFields a b
  | a, b => ∃ t, a.numeral? = some t ∧ b.numeral? = some t

def AlikeItems : List Json → List Json → Prop
  | [], [] => True
  | a :: as, b :: bs => Alike a b ∧ AlikeItems as bs
  | _, _ => False

def AlikeFields : List (String × Json) → List (String × Json) → Prop
  | [], [] => True
  | (k,a) :: as, (l,b) :: bs => k = l ∧ Alike a b ∧ AlikeFields as bs
  | _, _ => False

end

theorem alikeFields_iff : ∀ as bs : List (String × Json),
    AlikeFields as bs ↔ List.Forall₂ (fun x y => x.1 = y.1 ∧ Alike x.2 y.2) as bs
  | [], [] => by simp [AlikeFields]
  | [], (_,_) :: _ => by simp [AlikeFields]
  | (_,_) :: _, [] => by simp [AlikeFields]
  | (_,_) :: as, (_,_) :: bs => by simp [AlikeFields,alikeFields_iff as bs,and_assoc]

theorem alike_ofFields (a b : Fields) : Alike (.ofFields a) (.ofFields b) ↔ a.Matches Alike b :=
  (alikeFields_iff a.entries b.entries).trans (KeyMap.matches_iff Alike a b).symm

theorem text?_of_alike {a b : Json} (alike : Alike a b) : a.text? = b.text? := by
  cases a <;> cases b <;> simp_all [Alike,numeral?,text?]

theorem isNull_of_alike {a b : Json} (alike : Alike a b) : a.isNull = b.isNull := by
  cases a <;> cases b <;> simp_all [Alike,numeral?,isNull]

section Numbers

def Numeric (cs : List Char) : Prop := ∀ c ∈ cs, isNumeric c = true

theorem Numeric.nil : Numeric [] := by simp [Numeric]

theorem Numeric.cons {c : Char} {cs : List Char} (head : isNumeric c = true) (tail : Numeric cs) :
    Numeric (c :: cs) := by
  intro x member
  rcases List.mem_cons.mp member with rfl | inside
  · exact head
  · exact tail x inside

theorem Numeric.append {cs ds : List Char} (first : Numeric cs) (second : Numeric ds) : Numeric (cs ++ ds) := by
  intro x member
  exact (List.mem_append.mp member).elim (first x) (second x)

theorem Numeric.subset {cs ds : List Char} (whole : Numeric ds) (inside : cs ⊆ ds) : Numeric cs :=
  fun x member => whole x (inside member)

theorem Numeric.replicate {c : Char} (numeric : isNumeric c = true) (n : Nat) : Numeric (List.replicate n c) := by
  intro x member
  rw [List.eq_of_mem_replicate member]
  exact numeric

theorem numeric_digits (n : Nat) : Numeric (Nat.toDigits 10 n) := by
  intro c member
  simp [isNumeric,Nat.isDigit_of_mem_toDigits (by decide) (by decide) member]

private theorem numeric_trimZeros {digits : List Char} (numeric : Numeric digits) :
    Numeric (Decimal.write.trimZeros digits) := by
  refine numeric.subset fun c member => List.mem_reverse.mp ?_
  exact (List.dropWhile_sublist _).subset (List.mem_reverse.mp member)

private theorem numeric_positional {digits : List Char} (numeric : Numeric digits) (leading : Int) :
    Numeric (Decimal.positional digits leading) := by
  have zeros (n : Nat) : Numeric (List.replicate n '0') := .replicate (by decide) n
  unfold Decimal.positional
  dsimp only
  split
  · exact .append (.append (.cons (by decide) (.cons (by decide) .nil)) (zeros _)) numeric
  · split
    · exact .append (.append numeric (zeros _)) (.cons (by decide) (.cons (by decide) .nil))
    · exact .append (numeric.subset (List.take_subset _ _))
        (.cons (by decide) (numeric.subset (List.drop_subset _ _)))

private theorem numeric_scientific (plus : Bool) {digits : List Char} (numeric : Numeric digits)
    (leading : Int) : Numeric (Decimal.scientific plus digits leading) := by
  have fraction : Numeric (if digits.length ≤ 1 then [] else '.' :: digits.drop 1) := by
    split
    · exact .nil
    · exact .cons (by decide) (numeric.subset (List.drop_subset _ _))
  have sign : Numeric (if leading < 0 then ['-'] else if plus then ['+'] else []) := by
    split
    · exact .cons (by decide) .nil
    · split
      · exact .cons (by decide) .nil
      · exact .nil
  have first : Numeric (digits.take 1) := numeric.subset (List.take_subset _ _)
  exact ((first.append fraction).append (.cons (by decide) sign)).append (numeric_digits _)

private theorem numeric_decimal (layout : Decimal.Layout) (d : Decimal) : Numeric (d.write layout) := by
  unfold Decimal.write
  dsimp only
  split
  · exact .cons (by decide) (.cons (by decide) (.cons (by decide) .nil))
  · split
    · exact numeric_positional (numeric_trimZeros (numeric_digits _)) _
    · exact numeric_scientific _ (numeric_trimZeros (numeric_digits _)) _

private theorem decimal_ne_nil (layout : Decimal.Layout) (d : Decimal) : d.write layout ≠ [] := by
  unfold Decimal.write Decimal.positional Decimal.scientific
  dsimp only
  split_ifs <;> simp

private theorem numeric_sign (negative : Prop) [Decidable negative] : Numeric (if negative then ['-'] else []) := by
  split
  · exact .cons (by decide) .nil
  · exact .nil

theorem numeral_spec {a : Json} {t : List Char} (number : a.numeral? = some t) : t ≠ [] ∧ Numeric t := by
  cases a with
  | int n =>
    cases Option.some.inj number
    simp only [writeInt,List.append_nil]
    exact ⟨by simp [Nat.toDigits_ne_nil],(numeric_sign _).append (numeric_digits _)⟩
  | real x =>
    cases Option.some.inj number
    simp only [writeReal,Binary64.write,List.append_nil]
    exact ⟨by simp [decimal_ne_nil],(numeric_sign _).append (numeric_decimal _ _)⟩
  | null | bool | text | list | object => cases number

end Numbers

section Quotes

/-- The first character of an escaped text, and what follows its escaped form. -/
private def unescape : List Char → Option (Char × List Char)
  | '\\' :: 'b' :: rest => some ('\x08',rest)
  | '\\' :: 'f' :: rest => some ('\x0c',rest)
  | '\\' :: 'n' :: rest => some ('\n',rest)
  | '\\' :: 'r' :: rest => some ('\r',rest)
  | '\\' :: 't' :: rest => some ('\t',rest)
  | '\\' :: 'u' :: _ :: _ :: a :: b :: rest => some (Char.ofNat ((a.toNat - 48) * 16 + b.toNat % 87 % 48),rest)
  | '\\' :: c :: rest => some (c,rest)
  | '"' :: _ => none
  | c :: rest => some (c,rest)
  | [] => none

private theorem unescape_control (rest : List Char) :
    ∀ n < 32, unescape (['\\','u'] ++ Text.paddedHex 4 n ++ rest) = some (Char.ofNat n,rest) := by
  intro n small
  interval_cases n <;> rfl

private theorem unescape_escape (c : Char) (rest : List Char) : unescape (escape c ++ rest) = some (c,rest) := by
  unfold escape
  split
  case h_8 quote backslash _ _ _ _ _ =>
    split
    next control => rw [unescape_control rest c.toNat control,Char.ofNat_toNat]
    next =>
      simp only [List.cons_append,List.nil_append]
      unfold unescape
      split
      case h_9 x y z u v w t a b r eq =>
        cases eq; rfl
      all_goals next eq => cases eq <;> contradiction
  all_goals rfl

private theorem unescape_quote (rest : List Char) : unescape ('"' :: rest) = none := rfl

private theorem escaped_inj : ∀ {cs ds r s : List Char},
    cs.flatMap escape ++ '"' :: r = ds.flatMap escape ++ '"' :: s → cs = ds ∧ r = s
  | [], [], _, _, same => ⟨rfl,(List.cons.inj same).2⟩
  | [], d :: ds, _, _, same => by
    have first := congrArg unescape same
    simp only [List.flatMap_nil,List.nil_append,List.flatMap_cons,List.append_assoc,unescape_quote,
      unescape_escape] at first
    cases first
  | c :: cs, [], _, _, same => by
    have first := congrArg unescape same
    simp only [List.flatMap_nil,List.nil_append,List.flatMap_cons,List.append_assoc,unescape_quote,
      unescape_escape] at first
    cases first
  | c :: cs, d :: ds, _, _, same => by
    have first := congrArg unescape same
    simp only [List.flatMap_cons,List.append_assoc,unescape_escape,Option.some.injEq,Prod.mk.injEq] at first
    obtain ⟨rfl,remaining⟩ := first
    obtain ⟨rfl,rest⟩ := escaped_inj remaining
    exact ⟨rfl,rest⟩

theorem writeText_inj {a b : String} {r s : List Char} (same : writeText a r = writeText b s) : a = b ∧ r = s := by
  obtain ⟨chars,rest⟩ := escaped_inj (List.cons.inj same).2
  exact ⟨String.ext chars,rest⟩

end Quotes

section Shapes

/-- What the first character of a text tells about the value. -/
private inductive Shape where
  | null | bool (value : Bool) | number | text | list | object

private def shape : Json → Shape
  | .null => .null
  | .bool b => .bool b
  | .int _ | .real _ => .number
  | .text _ => .text
  | .list _ => .list
  | .object _ => .object

private def shapeOf : Char → Shape
  | 'n' => .null
  | 't' => .bool true
  | 'f' => .bool false
  | '"' => .text
  | '[' => .list
  | '\x7b' => .object
  | _ => .number

private theorem shapeOf_numeric {c : Char} (numeric : isNumeric c = true) : shapeOf c = .number := by
  unfold shapeOf
  split
  case h_7 => rfl
  all_goals exact absurd numeric (by decide)

private theorem write_numeral {a : Json} {t : List Char} (number : a.numeral? = some t) (rest : List Char) :
    a.write rest = t ++ rest := by
  cases a with
  | int | real =>
    cases Option.some.inj number
    simp [write,writeInt,writeReal]
  | null | bool | text | list | object => cases number

/-- A closing bracket starts no value, so the text of a list tells whether it is empty. -/
private theorem head_write (a : Json) (rest : List Char) :
    ∃ c cs, a.write rest = c :: cs ∧ shapeOf c = a.shape ∧ c ≠ ']' := by
  have number {a : Json} {t : List Char} (found : a.numeral? = some t) :
      ∃ c cs, a.write rest = c :: cs ∧ shapeOf c = .number ∧ c ≠ ']' := by
    obtain ⟨filled,numeric⟩ := numeral_spec found
    obtain ⟨c,cs,rfl⟩ := List.exists_cons_of_ne_nil filled
    have first : isNumeric c = true := numeric c List.mem_cons_self
    refine ⟨c,cs ++ rest,write_numeral found rest,shapeOf_numeric first,?_⟩
    rintro rfl
    exact absurd first (by decide)
  match a with
  | .null => exact ⟨_,_,rfl,rfl,by decide⟩
  | .bool true => exact ⟨_,_,rfl,rfl,by decide⟩
  | .bool false => exact ⟨_,_,rfl,rfl,by decide⟩
  | .int n => exact number (a := .int n) rfl
  | .real x => exact number (a := .real x) rfl
  | .text s => exact ⟨_,_,rfl,rfl,by decide⟩
  | .list [] => exact ⟨_,_,rfl,rfl,by decide⟩
  | .list (item :: items) => exact ⟨_,_,rfl,rfl,by decide⟩
  | .object [] => exact ⟨_,_,rfl,rfl,by decide⟩
  | .object (field :: fields) => exact ⟨_,_,rfl,rfl,by decide⟩

private theorem shape_of_write {a b : Json} {r s : List Char} (same : a.write r = b.write s) :
    a.shape = b.shape := by
  obtain ⟨c,cs,first,shape,_⟩ := head_write a r
  obtain ⟨d,ds,other,shape',_⟩ := head_write b s
  obtain ⟨rfl,_⟩ := List.cons.inj (first.symm.trans (same.trans other))
  exact shape.symm.trans shape'

/-- What may follow a number: nothing that could belong to it. -/
def Ends (rest : List Char) : Prop := ∀ c cs, rest = c :: cs → isNumeric c = false

private theorem numeral_boundary {t rest : List Char} (numeric : Numeric t) (ends : Ends rest) :
    (t ++ rest).takeWhile isNumeric = t := by
  rw [List.takeWhile_append_of_pos numeric]
  cases rest with
  | nil => simp
  | cons c cs => simp [ends c cs rfl]

private theorem numeral_of_write {a b : Json} {t u r s : List Char} (number : a.numeral? = some t)
    (other : b.numeral? = some u) (end_r : Ends r) (end_s : Ends s) (same : a.write r = b.write s) :
    t = u ∧ r = s := by
  rw [write_numeral number,write_numeral other] at same
  have texts : t = u := by
    rw [← numeral_boundary (numeral_spec number).2 end_r,← numeral_boundary (numeral_spec other).2 end_s,same]
  subst texts
  exact ⟨rfl,List.append_cancel_left same⟩

end Shapes

section Texts

private theorem ends_closed {c : Char} (rest : List Char) (closes : isNumeric c = false) : Ends (c :: rest) := by
  intro d ds same
  obtain ⟨rfl,_⟩ := List.cons.inj same
  exact closes

private theorem ends_items (items : List Json) (rest : List Char) : Ends (writeItems items rest) := by
  cases items <;> exact ends_closed _ (by decide)

private theorem ends_fields (fields : List (String × Json)) (rest : List Char) :
    Ends (writeFields fields rest) := by
  rcases fields with _ | ⟨⟨key,value⟩,fields⟩ <;> exact ends_closed _ (by decide)

mutual

/-- Equal texts are texts of alike values, and equal things follow them. -/
theorem alike_of_write : ∀ {a b : Json} {r s : List Char}, Ends r → Ends s → a.write r = b.write s →
    Alike a b ∧ r = s
  | a, b, r, s, end_r, end_s, same => by
    -- Values of one shape are left; the missing cases contradict it.
    have shapes : a.shape = b.shape := shape_of_write same
    match a, b with
    | .null, .null => exact ⟨trivial,by simpa [write] using same⟩
    | .bool x, .bool y =>
      cases shapes
      cases x <;> exact ⟨rfl,by simpa [write] using same⟩
    | .int _, .int _ | .int _, .real _ | .real _, .int _ | .real _, .real _ =>
      obtain ⟨texts,rest⟩ := numeral_of_write rfl rfl end_r end_s same
      exact ⟨⟨_,rfl,congrArg some texts.symm⟩,rest⟩
    | .text x, .text y => exact writeText_inj same
    | .list [], .list [] => exact ⟨trivial,by simpa [write] using same⟩
    | .list [], .list (b :: bs) =>
      obtain ⟨c,cs,first,_,inside⟩ := head_write b (writeItems bs s)
      simp [write,first,Ne.symm inside] at same
    | .list (a :: as), .list [] =>
      obtain ⟨c,cs,first,_,inside⟩ := head_write a (writeItems as r)
      simp [write,first,inside] at same
    | .list (a :: as), .list (b :: bs) =>
      obtain ⟨head,rest⟩ := alike_of_write (ends_items as r) (ends_items bs s) (List.cons.inj same).2
      obtain ⟨tail,rest⟩ := alikeItems_of_write rest
      exact ⟨⟨head,tail⟩,rest⟩
    | .object [], .object [] => exact ⟨trivial,by simpa [write] using same⟩
    | .object [], .object ((l,b) :: bs) => simp [write,writeText] at same
    | .object ((k,a) :: as), .object [] => simp [write,writeText] at same
    | .object ((k,a) :: as), .object ((l,b) :: bs) =>
      obtain ⟨keys,rest⟩ := writeText_inj (List.cons.inj same).2
      obtain ⟨head,rest⟩ := alike_of_write (ends_fields as r) (ends_fields bs s) (List.cons.inj rest).2
      obtain ⟨tail,rest⟩ := alikeFields_of_write rest
      exact ⟨⟨keys,head,tail⟩,rest⟩

theorem alikeItems_of_write : ∀ {as bs : List Json} {r s : List Char},
    writeItems as r = writeItems bs s → AlikeItems as bs ∧ r = s
  | [], [], _, _, same => ⟨trivial,(List.cons.inj same).2⟩
  | [], _ :: _, _, _, same => absurd (List.cons.inj same).1 (by decide)
  | _ :: _, [], _, _, same => absurd (List.cons.inj same).1 (by decide)
  | a :: as, b :: bs, r, s, same => by
    obtain ⟨head,rest⟩ := alike_of_write (ends_items as r) (ends_items bs s) (List.cons.inj same).2
    obtain ⟨tail,rest⟩ := alikeItems_of_write rest
    exact ⟨⟨head,tail⟩,rest⟩

theorem alikeFields_of_write : ∀ {as bs : List (String × Json)} {r s : List Char},
    writeFields as r = writeFields bs s → AlikeFields as bs ∧ r = s
  | [], [], _, _, same => ⟨trivial,(List.cons.inj same).2⟩
  | [], (_,_) :: _, _, _, same => absurd (List.cons.inj same).1 (by decide)
  | (_,_) :: _, [], _, _, same => absurd (List.cons.inj same).1 (by decide)
  | (k,a) :: as, (l,b) :: bs, r, s, same => by
    obtain ⟨keys,rest⟩ := writeText_inj (List.cons.inj same).2
    obtain ⟨head,rest⟩ := alike_of_write (ends_fields as r) (ends_fields bs s) (List.cons.inj rest).2
    obtain ⟨tail,rest⟩ := alikeFields_of_write rest
    exact ⟨⟨keys,head,tail⟩,rest⟩

end

mutual

theorem write_of_alike : ∀ {a b : Json}, Alike a b → ∀ rest, a.write rest = b.write rest
  | a, b, alike, rest => by
    match a, b with
    | .null, .null => rfl
    | .bool x, .bool y => rw [show x = y from alike]
    | .text x, .text y => rw [show x = y from alike]
    | .list [], .list [] => rfl
    | .list (a :: as), .list (b :: bs) =>
      rw [write,write,writeItems_of_alike alike.2,write_of_alike alike.1]
    | .object [], .object [] => rfl
    | .object ((k,a) :: as), .object ((l,b) :: bs) =>
      obtain ⟨rfl,head,tail⟩ := alike
      rw [write,write,writeFields_of_alike tail,write_of_alike head]
    | .int _, _ | .real _, _ =>
      obtain ⟨t,number,other⟩ := alike
      rw [write_numeral number,write_numeral other]

theorem writeItems_of_alike : ∀ {as bs : List Json}, AlikeItems as bs → ∀ rest,
    writeItems as rest = writeItems bs rest
  | [], [], _, _ => rfl
  | a :: as, b :: bs, alike, rest => by
    rw [writeItems,writeItems,writeItems_of_alike alike.2,write_of_alike alike.1]

theorem writeFields_of_alike : ∀ {as bs : List (String × Json)}, AlikeFields as bs → ∀ rest,
    writeFields as rest = writeFields bs rest
  | [], [], _, _ => rfl
  | (k,a) :: as, (l,b) :: bs, alike, rest => by
    obtain ⟨rfl,head,tail⟩ := alike
    rw [writeFields,writeFields,writeFields_of_alike tail,write_of_alike head]

end

/-- Two values have the same compact text exactly when they are alike. -/
theorem compact_eq_iff (a b : Json) : a.compact = b.compact ↔ Alike a b := by
  have ends : Ends [] := fun _ _ same => by cases same
  constructor
  · intro same
    exact (alike_of_write ends ends (String.ofList_injective same)).1
  · intro alike
    exact congrArg String.ofList (write_of_alike alike [])

end Texts

end Hostkeeper.Json
