import Hostkeeper.Proofs.Decimal.Search
import Mathlib.Data.List.TakeWhile

/-! What the text of a decimal stands for. Both layouts are read back to the size that was written, so that
no two finite numbers are written alike. -/
namespace Hostkeeper.Decimal

section Reading

/-- The characters before the first mark, and those after it. -/
def cut (mark : Char) (cs : List Char) : List Char × List Char :=
  (cs.takeWhile (· != mark),(cs.dropWhile (· != mark)).drop 1)

/-- The size of digits with at most one point among them. -/
def pointedSize (cs : List Char) : ℚ :=
  Nat.ofDigitChars 10 ((cut '.' cs).1 ++ (cut '.' cs).2) 0 * 10 ^ (-((cut '.' cs).2.length : ℤ))

def signedExponent : List Char → ℤ
  | '-' :: digits => -Nat.ofDigitChars 10 digits 0
  | '+' :: digits => Nat.ofDigitChars 10 digits 0
  | digits => Nat.ofDigitChars 10 digits 0

/-- The size that a text without a sign stands for, in either layout. -/
def textSize (cs : List Char) : ℚ := pointedSize (cut 'e' cs).1 * 10 ^ signedExponent (cut 'e' cs).2

def Digits (cs : List Char) : Prop := ∀ c ∈ cs, c.isDigit = true

theorem Digits.append {cs ds : List Char} (first : Digits cs) (second : Digits ds) : Digits (cs ++ ds) :=
  fun c member => (List.mem_append.mp member).elim (first c) (second c)

theorem Digits.zeros (n : Nat) : Digits (List.replicate n '0') := by
  intro c member
  rw [List.eq_of_mem_replicate member]
  decide

theorem Digits.toDigits (n : Nat) : Digits (Nat.toDigits 10 n) :=
  fun _ member => Nat.isDigit_of_mem_toDigits (by decide) (by decide) member

theorem Digits.take {cs : List Char} (digits : Digits cs) (n : Nat) : Digits (cs.take n) :=
  fun c member => digits c (List.take_subset n cs member)

theorem Digits.drop {cs : List Char} (digits : Digits cs) (n : Nat) : Digits (cs.drop n) :=
  fun c member => digits c (List.drop_subset n cs member)

theorem Digits.not_mem {cs : List Char} (digits : Digits cs) (mark : Char) (other : mark.isDigit = false) :
    mark ∉ cs := by
  intro member
  rw [digits mark member] at other
  cases other

variable {mark : Char} {front : List Char}

private theorem unmarked_of_absent (absent : mark ∉ front) : ∀ c ∈ front, (c != mark) = true := by
  intro c member
  rw [bne_iff_ne]
  exact ne_of_mem_of_not_mem member absent

theorem cut_append (absent : mark ∉ front) (back : List Char) : cut mark (front ++ mark :: back) = (front,back) := by
  have all := unmarked_of_absent absent
  unfold cut
  rw [List.takeWhile_append_of_pos all,List.dropWhile_append_of_pos all]
  simp

theorem cut_of_absent (absent : mark ∉ front) : cut mark front = (front,[]) := by
  have all := unmarked_of_absent absent
  unfold cut
  rw [List.takeWhile_eq_self_iff.mpr all,List.dropWhile_eq_nil_iff.mpr all]
  rfl

private theorem unmarked {whole fraction : List Char} (first : Digits whole) (second : Digits fraction) :
    'e' ∉ whole ++ '.' :: fraction := by
  simp [first.not_mem 'e' (by decide),second.not_mem 'e' (by decide)]

theorem textSize_pointed {whole fraction : List Char} (first : Digits whole) (second : Digits fraction) :
    textSize (whole ++ '.' :: fraction) =
      Nat.ofDigitChars 10 (whole ++ fraction) 0 * 10 ^ (-(fraction.length : ℤ)) := by
  unfold textSize pointedSize
  rw [cut_of_absent (unmarked first second),cut_append (first.not_mem _ (by decide))]
  simp [signedExponent]

theorem signedExponent_write (plus : Bool) (exponent : ℤ) :
    signedExponent ((if exponent < 0 then ['-'] else if plus then ['+'] else []) ++ Nat.toDigits 10 exponent.natAbs) =
      exponent := by
  have bare {digits : List Char} (all : Digits digits) : signedExponent digits = Nat.ofDigitChars 10 digits 0 := by
    unfold signedExponent
    split
    next => exact absurd List.mem_cons_self (all.not_mem '-' (by decide))
    next => exact absurd List.mem_cons_self (all.not_mem '+' (by decide))
    next => rfl
  split
  next negative =>
    change -((Nat.ofDigitChars 10 (Nat.toDigits 10 exponent.natAbs) 0 : ℕ) : ℤ) = exponent
    rw [Nat.ofDigitChars_ten_toDigits]
    omega
  next nonneg =>
    split
    next =>
      change ((Nat.ofDigitChars 10 (Nat.toDigits 10 exponent.natAbs) 0 : ℕ) : ℤ) = exponent
      rw [Nat.ofDigitChars_ten_toDigits]
      omega
    next =>
      rw [List.nil_append,bare (.toDigits _),Nat.ofDigitChars_ten_toDigits]
      omega

end Reading

section Writing

variable {digits : List Char}

theorem textSize_positional (all : Digits digits) (leading : ℤ) :
    textSize (positional digits leading) =
      Nat.ofDigitChars 10 digits 0 * 10 ^ (leading + 1 - (digits.length : ℤ)) := by
  unfold positional
  dsimp only
  split
  next negative =>
    have plain : textSize (List.replicate 1 '0' ++ '.' :: (List.replicate (-leading - 1).toNat '0' ++ digits)) =
        Nat.ofDigitChars 10 digits 0 * 10 ^ (leading + 1 - (digits.length : ℤ)) := by
      rw [textSize_pointed (.zeros 1) ((Digits.zeros _).append all),Nat.ofDigitChars_append,Nat.ofDigitChars_append]
      have exponent : -((List.replicate (-leading - 1).toNat '0' ++ digits).length : ℤ) =
          leading + 1 - (digits.length : ℤ) := by
        rw [List.length_append,List.length_replicate]
        omega
      rw [exponent,Nat.ofDigitChars_replicate_zero]
      simp [Nat.ofDigitChars_cons]
    simpa using plain
  next nonneg =>
    split
    next short =>
      have plain := textSize_pointed (all.append (.zeros (leading.toNat + 1 - digits.length))) (.zeros 1)
      rw [show ['.','0'] = '.' :: List.replicate 1 '0' from rfl,plain,Nat.ofDigitChars_append,
        Nat.ofDigitChars_append,Nat.ofDigitChars_replicate_zero,Nat.ofDigitChars_replicate_zero,List.length_replicate]
      have exponent : leading + 1 - (digits.length : ℤ) = (leading.toNat + 1 - digits.length : ℕ) := by omega
      rw [exponent,zpow_natCast]
      push_cast
      rw [zpow_neg,zpow_one]
      field_simp
    next long =>
      rw [textSize_pointed (all.take _) (all.drop _),List.take_append_drop,List.length_drop]
      congr 2
      omega

theorem textSize_scientific (plus : Bool) (all : Digits digits) (filled : digits ≠ []) (leading : ℤ) :
    textSize (scientific plus digits leading) =
      Nat.ofDigitChars 10 digits 0 * 10 ^ (leading + 1 - (digits.length : ℤ)) := by
  unfold scientific textSize
  have length := List.length_pos_of_ne_nil filled
  rw [List.append_assoc,List.cons_append]
  split
  next single =>
    rw [List.append_nil,cut_append ((all.take 1).not_mem _ (by decide)),signedExponent_write]
    unfold pointedSize
    rw [cut_of_absent ((all.take 1).not_mem _ (by decide)),List.take_of_length_le single]
    have exponent : leading + 1 - (digits.length : ℤ) = leading := by omega
    rw [exponent]
    simp
  next more =>
    rw [cut_append (unmarked (all.take 1) (all.drop 1)),signedExponent_write]
    unfold pointedSize
    rw [cut_append ((all.take 1).not_mem _ (by decide)),List.take_append_drop,List.length_drop,mul_assoc,
      ← zpow_add₀ (by norm_num)]
    congr 2
    omega

theorem trimZeros_append (digits : List Char) :
    ∃ zeros, digits = write.trimZeros digits ++ List.replicate zeros '0' := by
  refine ⟨(digits.reverse.takeWhile (· == '0')).length,?_⟩
  have zeros : digits.reverse.takeWhile (· == '0') =
      List.replicate (digits.reverse.takeWhile (· == '0')).length '0' :=
    List.eq_replicate_length.mpr fun c member => by simpa using List.mem_takeWhile_imp member
  conv_lhs =>
    rw [← List.reverse_reverse digits,
      ← List.takeWhile_append_dropWhile (p := (· == '0')) (l := digits.reverse)]
  rw [List.reverse_append,write.trimZeros]
  congr 1
  conv_lhs => rw [zeros]
  exact List.reverse_replicate

theorem trimZeros_spec {n : Nat} (nonzero : n ≠ 0) :
    Digits (write.trimZeros (Nat.toDigits 10 n)) ∧ write.trimZeros (Nat.toDigits 10 n) ≠ [] ∧
    ∃ zeros, (Nat.toDigits 10 n).length = (write.trimZeros (Nat.toDigits 10 n)).length + zeros ∧
      10 ^ zeros * Nat.ofDigitChars 10 (write.trimZeros (Nat.toDigits 10 n)) 0 = n := by
  obtain ⟨zeros,split⟩ := trimZeros_append (Nat.toDigits 10 n)
  have all : Digits (Nat.toDigits 10 n) := .toDigits n
  have value : Nat.ofDigitChars 10 (Nat.toDigits 10 n) 0 = n := Nat.ofDigitChars_ten_toDigits
  generalize write.trimZeros (Nat.toDigits 10 n) = short at *
  rw [split] at all value
  rw [Nat.ofDigitChars_append,Nat.ofDigitChars_replicate_zero] at value
  refine ⟨fun c member => all c (List.mem_append_left _ member),?_,zeros,?_,value⟩
  · rintro rfl
    simp at value
    exact nonzero value.symm
  · rw [split,List.length_append,List.length_replicate]

/-- The text of a decimal stands for its size, in every layout. -/
theorem textSize_write (layout : Layout) (d : Decimal) :
    textSize (d.write layout) = d.digits * 10 ^ d.exponent := by
  unfold write
  dsimp only
  split
  next zero =>
    rw [zero,show ['0','.','0'] = List.replicate 1 '0' ++ '.' :: List.replicate 1 '0' from rfl,
      textSize_pointed (.zeros 1) (.zeros 1)]
    simp [Nat.ofDigitChars_cons]
  next nonzero =>
    obtain ⟨all,filled,zeros,length,value⟩ := trimZeros_spec nonzero
    have size : (Nat.ofDigitChars 10 (write.trimZeros (Nat.toDigits 10 d.digits)) 0 : ℚ) *
        10 ^ (d.exponent + ((Nat.toDigits 10 d.digits).length : ℤ) - 1 + 1 -
          ((write.trimZeros (Nat.toDigits 10 d.digits)).length : ℤ)) = d.digits * 10 ^ d.exponent := by
      generalize write.trimZeros (Nat.toDigits 10 d.digits) = short at *
      have exponent : d.exponent + ((Nat.toDigits 10 d.digits).length : ℤ) - 1 + 1 - (short.length : ℤ) =
          zeros + d.exponent := by
        rw [length]
        push_cast
        ring
      have value : (10 ^ zeros * Nat.ofDigitChars 10 short 0 : ℚ) = d.digits := by exact_mod_cast value
      rw [exponent,← value,zpow_add₀ (by norm_num),zpow_natCast]
      ring
    split
    next => rw [textSize_positional all,size]
    next => rw [textSize_scientific _ all filled,size]

/-- The text starts with a digit, so no sign can be taken for a part of it, and a point or an exponent stands in
it, so no whole number is written like it. -/
theorem write_marks (layout : Layout) (d : Decimal) :
    (∃ c cs, d.write layout = c :: cs ∧ c.isDigit = true) ∧ ('.' ∈ d.write layout ∨ 'e' ∈ d.write layout) := by
  unfold write
  dsimp only
  split
  next => exact ⟨⟨_,_,rfl,by decide⟩,by simp⟩
  next nonzero =>
    obtain ⟨all,filled,_⟩ := trimZeros_spec nonzero
    generalize write.trimZeros (Nat.toDigits 10 d.digits) = short at *
    obtain ⟨c,cs,rfl⟩ := List.exists_cons_of_ne_nil filled
    have first : c.isDigit = true := all c List.mem_cons_self
    split
    next =>
      unfold positional
      dsimp only
      split
      next => exact ⟨⟨_,_,rfl,by decide⟩,by simp⟩
      next => split <;> exact ⟨⟨_,_,rfl,first⟩,by simp⟩
    next => exact ⟨⟨_,_,rfl,first⟩,by simp [scientific]⟩

end Writing

/-- No two finite numbers are written alike, the two zeros included. -/
theorem write_inj {layout : Layout} {x y : Binary64} (finite_x : x.isFinite = true) (finite_y : y.isFinite = true)
    (same : x.write layout = y.write layout) : x = y := by
  have unsigned (d : Decimal) (rest : List Char) : d.write layout ≠ '-' :: rest := by
    obtain ⟨⟨c,cs,text,digit⟩,_⟩ := write_marks layout d
    rw [text]
    rintro ⟨⟩
    exact absurd digit (by decide)
  unfold Binary64.write at same
  have sizes : x.isNegative = y.isNegative ∧ (shortest x).write layout = (shortest y).write layout := by
    cases sign_x : x.isNegative <;> cases sign_y : y.isNegative <;> rw [sign_x,sign_y] at same
    · exact ⟨rfl,same⟩
    · exact absurd same (unsigned _ _)
    · exact absurd same.symm (unsigned _ _)
    · exact ⟨rfl,(List.cons.inj same).2⟩
  refine eq_of_shortest finite_x finite_y sizes.1 ?_
  rw [← textSize_write layout,← textSize_write layout,sizes.2]

end Hostkeeper.Decimal
