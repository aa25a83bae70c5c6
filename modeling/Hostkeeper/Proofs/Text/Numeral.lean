import Hostkeeper.Text.Numeral
import Mathlib.Data.List.Basic

/-! Which texts are numerals, and of which numbers. Reading within a limit succeeds exactly on the
numerals of numbers within it. -/
namespace Hostkeeper.Text

/-- The text is some decimal digits of this number, with or without a plus sign before them. -/
def Denotes (s : String) (n : Nat) : Prop :=
  ∃ digits : List Char, digits ≠ [] ∧ (∀ c ∈ digits, c.isDigit) ∧ Nat.ofDigitChars 10 digits 0 = n ∧
    (s.toList = digits ∨ s.toList = '+' :: digits)

theorem le_ofDigitChars (digits : List Char) (start : Nat) : start ≤ Nat.ofDigitChars 10 digits start := by
  induction digits generalizing start with
  | nil => exact Nat.le_refl start
  | cons c rest ih =>
    rw [Nat.ofDigitChars_cons]
    have later := ih (10 * start + (c.toNat - '0'.toNat))
    omega

/-- More digits never make a number less, so the limit can be checked digit by digit. -/
theorem readDigits_ok_iff {limit start : Nat} (beyond : NumeralError) (digits : List Char) (n : Nat)
    (within : start ≤ limit) : readDigits limit beyond start digits = .ok n ↔
      (∀ c ∈ digits, c.isDigit) ∧ Nat.ofDigitChars 10 digits start = n ∧ n ≤ limit := by
  induction digits generalizing start with
  | nil =>
    rw [readDigits,Nat.ofDigitChars_nil]
    constructor
    · intro read
      cases read
      exact ⟨by simp,rfl,within⟩
    · rintro ⟨_,rfl,_⟩
      rfl
  | cons c rest ih =>
    have value : start * 10 + (c.toNat - 48) = 10 * start + (c.toNat - '0'.toNat) := by
      rw [Nat.mul_comm]
      rfl
    rw [readDigits,Nat.ofDigitChars_cons,value,List.forall_mem_cons]
    split
    next other =>
      have nondigit : ¬c.isDigit = true := by simpa using other
      exact ⟨fun read => (by cases read),fun all => absurd all.1.1 nondigit⟩
    next digit =>
      have isDigit : c.isDigit = true := by simpa using digit
      split
      next above =>
        refine ⟨fun read => (by cases read),fun all => ?_⟩
        have least := le_ofDigitChars rest (10 * start + (c.toNat - '0'.toNat))
        omega
      next below =>
        rw [ih (by omega)]
        exact ⟨fun all => ⟨⟨isDigit,all.1⟩,all.2⟩,fun all => ⟨all.1.2,all.2⟩⟩

theorem readNat_ok_iff (limit n : Nat) (s : String) : readNat limit s = .ok n ↔ Denotes s n ∧ n ≤ limit := by
  have sign : '+'.isDigit = false := by decide
  unfold readNat Denotes
  generalize s.toList = cs
  split
  next =>
    refine ⟨fun read => (by cases read),?_⟩
    rintro ⟨⟨digits,filled,_,_,bare | signed⟩,_⟩
    · exact absurd bare.symm filled
    · cases signed
  next =>
    refine ⟨fun read => (by cases read),?_⟩
    rintro ⟨⟨digits,filled,all,_,rfl | signed⟩,_⟩
    · simpa [sign] using all '+'
    · exact absurd (List.cons.inj signed).2.symm filled
  next rest filled =>
    rw [readDigits_ok_iff .tooLarge rest n (Nat.zero_le limit)]
    constructor
    · rintro ⟨all,value,bound⟩
      exact ⟨⟨rest,filled,all,value,.inr rfl⟩,bound⟩
    · rintro ⟨⟨digits,_,all,value,rfl | signed⟩,bound⟩
      · simpa [sign] using all '+'
      · obtain rfl := (List.cons.inj signed).2
        exact ⟨all,value,bound⟩
  next nonempty _ unsigned =>
    rw [readDigits_ok_iff .tooLarge cs n (Nat.zero_le limit)]
    constructor
    · rintro ⟨all,value,bound⟩
      exact ⟨⟨cs,nonempty,all,value,.inl rfl⟩,bound⟩
    · rintro ⟨⟨digits,_,all,value,rfl | signed⟩,bound⟩
      · exact ⟨all,value,bound⟩
      · exact absurd signed (unsigned digits)

theorem toDigits_inj {m n : Nat} (same : Nat.toDigits 10 m = Nat.toDigits 10 n) : m = n := by
  rw [← Nat.ofDigitChars_ten_toDigits (n := m),same,Nat.ofDigitChars_ten_toDigits]

theorem le_of_readDigits {limit m : Nat} {beyond : NumeralError} {digits : List Char}
    (read : readDigits limit beyond 0 digits = .ok m) : m ≤ limit :=
  ((readDigits_ok_iff beyond digits m (Nat.zero_le limit)).mp read).2.2

theorem natAbs_of_readInt64 {s : String} {n : Int} (read : readInt64 s = .ok n) : n.natAbs ≤ UInt64.size / 2 := by
  have positive {digits : List Char}
      (mapped : (readDigits (UInt64.size / 2 - 1) .tooLarge 0 digits).map Int.ofNat = .ok n) :
      n.natAbs ≤ UInt64.size / 2 := by
    cases number : readDigits (UInt64.size / 2 - 1) .tooLarge 0 digits with
    | error e => rw [number] at mapped; cases mapped
    | ok m =>
      rw [number] at mapped
      cases mapped
      exact Nat.le_trans (le_of_readDigits number) (by decide)
  unfold readInt64 at read
  split at read
  · cases read
  · cases read
  · cases read
  · exact positive read
  next rest _ _ =>
    cases number : readDigits (UInt64.size / 2) .tooSmall 0 rest with
    | error e => rw [number] at read; cases read
    | ok m =>
      rw [number] at read
      cases read
      rw [Int.natAbs_neg]
      exact le_of_readDigits number
  · exact positive read

end Hostkeeper.Text
