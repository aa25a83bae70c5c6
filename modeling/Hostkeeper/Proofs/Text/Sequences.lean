import Hostkeeper.Text.Utf8

/-! The encodings of characters as sequences of bytes. A first byte opens a sequence, and tells the range of the next
byte and how many there are to come. What such sequences spell are the encodings of characters, each once. -/
namespace Hostkeeper.Text.Utf8

/-- A first byte opens a sequence of two, three or four bytes. -/
inductive Opens (b : UInt8) : Pending → Prop
  | two (above : 0xC2 ≤ b.toNat) (below : b.toNat < 0xE0) : Opens b ⟨1,0x80,0xBF,b.toNat - 0xC0⟩
  | three (above : 0xE0 ≤ b.toNat) (below : b.toNat < 0xF0) :
      Opens b ⟨2,if b = 0xE0 then 0xA0 else 0x80,if b = 0xED then 0x9F else 0xBF,b.toNat - 0xE0⟩
  | four (above : 0xF0 ≤ b.toNat) (below : b.toNat < 0xF5) :
      Opens b ⟨3,if b = 0xF0 then 0x90 else 0x80,if b = 0xF4 then 0x8F else 0xBF,b.toNat - 0xF0⟩

/-- The next byte may go on with a sequence. -/
def Pending.Admits (p : Pending) (b : UInt8) : Prop := p.low ≤ b ∧ b ≤ p.high

def Pending.add (p : Pending) (b : UInt8) : Pending := ⟨p.needed - 1,0x80,0xBF,p.value * 64 + (b.toNat - 0x80)⟩

/-- Bytes that end a sequence, and the bits that it has then. -/
inductive Ends : Pending → List UInt8 → Nat → Prop
  | last {p b} (one : p.needed ≤ 1) (admits : p.Admits b) : Ends p [b] (p.add b).value
  | next {p b rest n} (more : ¬p.needed ≤ 1) (admits : p.Admits b) (ends : Ends (p.add b) rest n) : Ends p (b :: rest) n

section Bits

variable {b : UInt8} {p : Pending} {tail : List UInt8} {n : Nat} {c : Char}

theorem opens_iff : lead b = .more p ↔ Opens b p := by
  constructor
  · intro found
    simp only [lead,UInt8.lt_iff_toNat_lt,UInt8.reduceToNat] at found
    split at found
    · cases found
    · split at found
      · cases found
      · split at found
        · cases found
          exact .two (by omega) (by omega)
        · split at found
          · cases found
            exact .three (by omega) (by omega)
          · split at found
            · cases found
              exact .four (by omega) (by omega)
            · cases found
  · intro opens
    simp only [lead,UInt8.lt_iff_toNat_lt,UInt8.reduceToNat]
    cases opens with
    | two => rw [if_neg (by omega),if_neg (by omega),if_pos (by omega)]
    | three => rw [if_neg (by omega),if_neg (by omega),if_neg (by omega),if_pos (by omega)]
    | four => rw [if_neg (by omega),if_neg (by omega),if_neg (by omega),if_neg (by omega),if_pos (by omega)]

theorem lead_eq_char_iff : lead b = .char c ↔ b.toNat < 0x80 ∧ c = Char.ofNat b.toNat := by
  simp only [lead,UInt8.lt_iff_toNat_lt,UInt8.reduceToNat]
  by_cases below : b.toNat < 0x80
  · rw [if_pos below]
    constructor
    · intro same
      cases same
      exact ⟨below,rfl⟩
    · rintro ⟨-,rfl⟩
      rfl
  · rw [if_neg below]
    constructor
    · intro same
      repeat' split at same
      all_goals cases same
    · exact fun both => absurd both.1 below

theorem ends_one_iff {low high : UInt8} {v : Nat} : Ends ⟨1,low,high,v⟩ tail n ↔
    ∃ x : UInt8, tail = [x] ∧ low ≤ x ∧ x ≤ high ∧ n = v * 64 + (x.toNat - 0x80) := by
  constructor
  · intro ends
    cases ends with
    | last one admits => exact ⟨_,rfl,admits.1,admits.2,rfl⟩
    | next more => exact absurd (Nat.le_refl 1) more
  · rintro ⟨x,rfl,above,below,value⟩
    rw [value]
    exact .last (Nat.le_refl 1) ⟨above,below⟩

theorem ends_succ_iff {low high : UInt8} {k v : Nat} : Ends ⟨k + 2,low,high,v⟩ tail n ↔
    ∃ x rest, tail = x :: rest ∧ low ≤ x ∧ x ≤ high ∧ Ends ⟨k + 1,0x80,0xBF,v * 64 + (x.toNat - 0x80)⟩ rest n := by
  constructor
  · intro ends
    cases ends with
    | last one => exact absurd one (by simp)
    | next more admits ends => exact ⟨_,_,rfl,admits.1,admits.2,ends⟩
  · rintro ⟨x,rest,rfl,above,below,ends⟩
    exact .next (by simp) ⟨above,below⟩ ends

theorem toNat_ofNat_of_valid (valid : n.isValidChar) : (Char.ofNat n).val.toNat = n := by
  rw [Char.ofNat,dif_pos valid]
  rfl

theorem encode_of_opens {p : Pending} (opens : Opens b p) (ends : Ends p tail n) :
    n.isValidChar ∧ String.utf8EncodeChar (Char.ofNat n) = b :: tail := by
  cases opens with
  | two above below =>
    obtain ⟨x,rfl,ge,le,value⟩ := ends_one_iff.mp ends
    simp only [UInt8.le_iff_toNat_le,UInt8.reduceToNat] at ge le
    have valid : n.isValidChar := .inl (by omega)
    refine ⟨valid,?_⟩
    rw [String.utf8EncodeChar,toNat_ofNat_of_valid valid,if_neg (by omega),if_pos (by omega)]
    simp only [List.cons.injEq,and_true,← UInt8.toNat_inj,UInt8.toNat_ofNat']
    omega
  | three above below =>
    obtain ⟨x,rest,rfl,ge,le,ends⟩ := ends_succ_iff.mp ends
    obtain ⟨y,rfl,ge',le',value⟩ := ends_one_iff.mp ends
    simp only [UInt8.le_iff_toNat_le,UInt8.reduceToNat,apply_ite UInt8.toNat,← UInt8.toNat_inj] at ge le ge' le'
    have x_ge : 0x80 ≤ x.toNat ∧ (b.toNat = 0xE0 → 0xA0 ≤ x.toNat) := by split at ge <;> omega
    have x_le : x.toNat ≤ 0xBF ∧ (b.toNat = 0xED → x.toNat ≤ 0x9F) := by split at le <;> omega
    have valid : n.isValidChar := by
      rw [Nat.isValidChar]
      omega
    refine ⟨valid,?_⟩
    rw [String.utf8EncodeChar,toNat_ofNat_of_valid valid,if_neg (by omega),if_neg (by omega),if_pos (by omega)]
    simp only [List.cons.injEq,and_true,← UInt8.toNat_inj,UInt8.toNat_ofNat']
    refine ⟨?_,?_,?_⟩ <;> omega
  | four above below =>
    obtain ⟨x,rest,rfl,ge,le,ends⟩ := ends_succ_iff.mp ends
    obtain ⟨y,rest,rfl,ge',le',ends⟩ := ends_succ_iff.mp ends
    obtain ⟨z,rfl,ge'',le'',value⟩ := ends_one_iff.mp ends
    simp only [UInt8.le_iff_toNat_le,UInt8.reduceToNat,apply_ite UInt8.toNat,← UInt8.toNat_inj]
      at ge le ge' le' ge'' le''
    have x_ge : 0x80 ≤ x.toNat ∧ (b.toNat = 0xF0 → 0x90 ≤ x.toNat) := by split at ge <;> omega
    have x_le : x.toNat ≤ 0xBF ∧ (b.toNat = 0xF4 → x.toNat ≤ 0x8F) := by split at le <;> omega
    have valid : n.isValidChar := by
      rw [Nat.isValidChar]
      omega
    refine ⟨valid,?_⟩
    rw [String.utf8EncodeChar,toNat_ofNat_of_valid valid,if_neg (by omega),if_neg (by omega),if_neg (by omega)]
    simp only [List.cons.injEq,and_true,← UInt8.toNat_inj,UInt8.toNat_ofNat']
    refine ⟨?_,?_,?_,?_⟩ <;> omega

/-- How a character is encoded: by one byte, or by a sequence that its first byte opens. -/
theorem encode_cases (c : Char) : (∃ b, String.utf8EncodeChar c = [b] ∧ lead b = .char c) ∨
    ∃ b tail p, String.utf8EncodeChar c = b :: tail ∧ Opens b p ∧ Ends p tail c.toNat := by
  have valid : c.toNat.isValidChar := c.valid
  rw [Nat.isValidChar] at valid
  rw [String.utf8EncodeChar,show c.val.toNat = c.toNat from rfl]
  have byte (k : Nat) (small : k < 256) : (UInt8.ofNat k).toNat = k := UInt8.toNat_ofNat_of_lt' small
  split
  · refine .inl ⟨_,rfl,lead_eq_char_iff.mpr ?_⟩
    rw [byte _ (by omega),Char.ofNat_toNat]
    exact ⟨by omega,rfl⟩
  · refine .inr ?_
    split
    · refine ⟨_,_,_,rfl,.two ?_ ?_,ends_one_iff.mpr ⟨_,rfl,?_,?_,?_⟩⟩
      all_goals
        simp (disch := omega) only [UInt8.le_iff_toNat_le,UInt8.reduceToNat,byte]
        omega
    · split
      · refine ⟨_,_,_,rfl,.three ?_ ?_,ends_succ_iff.mpr ⟨_,_,rfl,?_,?_,ends_one_iff.mpr ⟨_,rfl,?_,?_,?_⟩⟩⟩
        all_goals
          simp (disch := omega) only [UInt8.le_iff_toNat_le,UInt8.reduceToNat,apply_ite UInt8.toNat,
            ← UInt8.toNat_inj,byte]
          repeat' split
          all_goals omega
      · refine ⟨_,_,_,rfl,.four ?_ ?_,ends_succ_iff.mpr ⟨_,_,rfl,?_,?_,ends_succ_iff.mpr ⟨_,_,rfl,?_,?_,
          ends_one_iff.mpr ⟨_,rfl,?_,?_,?_⟩⟩⟩⟩
        all_goals
          simp (disch := omega) only [UInt8.le_iff_toNat_le,UInt8.reduceToNat,apply_ite UInt8.toNat,
            ← UInt8.toNat_inj,byte]
          repeat' split
          all_goals omega

theorem encode_of_lead_char (found : lead b = .char c) : String.utf8EncodeChar c = [b] := by
  obtain ⟨below,rfl⟩ := lead_eq_char_iff.mp found
  rw [String.utf8EncodeChar,toNat_ofNat_of_valid (.inl (by omega)),if_pos (by omega),UInt8.ofNat_toNat]

theorem ends_of_opens (opens : Opens b p) (same : String.utf8EncodeChar c = b :: tail) : Ends p tail c.toNat := by
  rcases encode_cases c with ⟨b',alone,found⟩ | ⟨b',tail',p',whole,opens',ends⟩
  · obtain ⟨rfl,-⟩ := List.cons.inj (alone.symm.trans same)
    cases found.symm.trans (opens_iff.mpr opens)
  · obtain ⟨rfl,rfl⟩ := List.cons.inj (whole.symm.trans same)
    cases (opens_iff.mpr opens').symm.trans (opens_iff.mpr opens)
    exact ends

theorem exists_encode_cons (c : Char) : ∃ b tail, String.utf8EncodeChar c = b :: tail := by
  rcases encode_cases c with ⟨b,whole,-⟩ | ⟨b,tail,-,whole,-⟩
  · exact ⟨b,[],whole⟩
  · exact ⟨b,tail,whole⟩

theorem lead_ne_fault (same : String.utf8EncodeChar c = b :: tail) : lead b ≠ .fault := by
  rcases encode_cases c with ⟨b',alone,found⟩ | ⟨b',tail',p',whole,opens,-⟩
  · obtain ⟨rfl,-⟩ := List.cons.inj (alone.symm.trans same)
    simp [found]
  · obtain ⟨rfl,-⟩ := List.cons.inj (whole.symm.trans same)
    simp [opens_iff.mpr opens]

theorem Opens.low_le_high (opens : Opens b p) : p.low ≤ p.high := by
  cases opens with
  | two => exact (by decide : (0x80 : UInt8) ≤ 0xBF)
  | three | four =>
    dsimp only
    split <;> split <;> simp_all

theorem Opens.low_ge (opens : Opens b p) : 0x80 ≤ p.low := by
  cases opens with
  | two => exact UInt8.le_refl 0x80
  | three | four =>
    dsimp only
    split <;> decide

theorem exists_ends (range : p.low ≤ p.high) : ∃ tail n, Ends p tail n := by
  generalize still : p.needed = k
  induction k generalizing p with
  | zero => exact ⟨_,_,.last (by omega) ⟨UInt8.le_refl _,range⟩⟩
  | succ k ih =>
    by_cases one : p.needed ≤ 1
    · exact ⟨_,_,.last one ⟨UInt8.le_refl _,range⟩⟩
    · have fewer : (p.add p.low).needed = k := by simp [Pending.add,still]
      obtain ⟨tail,n,ends⟩ := ih (by decide : (0x80 : UInt8) ≤ 0xBF) fewer
      exact ⟨_,_,.next one ⟨UInt8.le_refl _,range⟩ ends⟩

end Bits

end Hostkeeper.Text.Utf8
