import Hostkeeper.Proofs.Text.Sequences

/-! What a stream of bytes reads as. A character is read where its encoding stands. Everything else is faults, each
made of as many bytes as begin a character, or of one byte. -/
namespace Hostkeeper.Text.Utf8

/-- The bytes begin the encoding of a character, or are the whole of it. -/
def Begins (bytes : List UInt8) : Prop := ∃ c, bytes <+: String.utf8EncodeChar c

/-- The first bytes of a stream are one fault. No character stands there, and with one more byte of the stream they
would not begin one. -/
structure Broken (bytes rest : List UInt8) : Prop where
  absent : ∀ c, ¬String.utf8EncodeChar c <+: bytes ++ rest
  filled : bytes ≠ []
  begins : bytes.length = 1 ∨ Begins bytes
  longest : ∀ b more, rest = b :: more → ¬Begins (bytes ++ [b])

inductive Reads : List UInt8 → List (Option Char) → Prop
  | done : Reads [] []
  | char (c : Char) {rest later} (reads : Reads rest later) : Reads (String.utf8EncodeChar c ++ rest) (some c :: later)
  | fault {bytes rest later} (broken : Broken bytes rest) (reads : Reads rest later) :
      Reads (bytes ++ rest) (none :: later)

/-- A sequence goes on with some bytes and not with the byte after them. -/
inductive Stops : Pending → List UInt8 → List UInt8 → Prop
  | here {p rest} (refused : ∀ b more, rest = b :: more → ¬p.Admits b) : Stops p [] rest
  | next {p b got rest} (more : ¬p.needed ≤ 1) (admits : p.Admits b) (stops : Stops (p.add b) got rest) :
      Stops p (b :: got) rest

section Sequences

variable {b : UInt8} {p : Pending} {bytes got tail rest : List UInt8} {n : Nat} {c : Char}

theorem ends_or_stops (p : Pending) (bytes : List UInt8) :
    (∃ tail rest n, bytes = tail ++ rest ∧ Ends p tail n) ∨ ∃ got rest, bytes = got ++ rest ∧ Stops p got rest := by
  induction bytes generalizing p with
  | nil => exact .inr ⟨[],[],rfl,.here nofun⟩
  | cons b bytes ih =>
    by_cases admits : p.Admits b
    · by_cases one : p.needed ≤ 1
      · exact .inl ⟨[b],bytes,_,rfl,.last one admits⟩
      · rcases ih (p.add b) with ⟨tail,rest,n,rfl,ends⟩ | ⟨got,rest,rfl,stops⟩
        · exact .inl ⟨b :: tail,rest,n,rfl,.next one admits ends⟩
        · exact .inr ⟨b :: got,rest,rfl,.next one admits stops⟩
    · refine .inr ⟨[],b :: bytes,rfl,.here fun b' more same => ?_⟩
      cases same
      exact admits

theorem Stops.not_ends (stops : Stops p got rest) (ends : Ends p tail n) : ¬tail <+: got ++ rest := by
  rintro ⟨more,same⟩
  induction stops generalizing tail with
  | here refused =>
    cases ends with
    | last _ admits => exact refused _ _ same.symm admits
    | next _ admits => exact refused _ _ same.symm admits
  | next several _ _ ih =>
    cases ends with
    | last one => exact several one
    | next _ _ ends =>
      obtain ⟨rfl,later⟩ := List.cons.inj same
      exact ih ends later

theorem Stops.not_longer {more : List UInt8} (stops : Stops p got (b :: more)) (ends : Ends p tail n) :
    ¬got ++ [b] <+: tail := by
  rintro ⟨later,rfl⟩
  generalize found : b :: more = rest at stops
  generalize whole : got ++ [b] ++ later = tail at ends
  induction stops generalizing tail with
  | here refused =>
    cases ends with
    | last _ admits =>
      obtain ⟨rfl,-⟩ := List.cons.inj whole
      exact refused _ _ found.symm admits
    | next _ admits =>
      obtain ⟨rfl,-⟩ := List.cons.inj whole
      exact refused _ _ found.symm admits
  | next several _ _ ih =>
    cases ends with
    | last one => exact several one
    | next _ _ ends =>
      obtain ⟨rfl,later⟩ := List.cons.inj whole
      exact ih found _ later ends

theorem Stops.exists_ends (stops : Stops p got rest) (range : p.low ≤ p.high) :
    ∃ tail n, Ends p tail n ∧ got <+: tail := by
  induction stops with
  | here =>
    obtain ⟨tail,n,ends⟩ := Utf8.exists_ends range
    exact ⟨tail,n,ends,List.nil_prefix⟩
  | next several admits _ ih =>
    obtain ⟨tail,n,ends,begins⟩ := ih (by decide : (0x80 : UInt8) ≤ 0xBF)
    exact ⟨_,n,.next several admits ends,List.prefix_cons_inj _ |>.mpr begins⟩

theorem Stops.broken (stops : Stops p got rest) (opens : Opens b p) : Broken (b :: got) rest := by
  refine ⟨fun c first => ?_,List.cons_ne_nil b got,.inr ?_,?_⟩
  · obtain ⟨b',tail,whole⟩ := exists_encode_cons c
    rw [whole] at first
    obtain ⟨rfl,among⟩ := List.cons_prefix_cons.mp first
    exact stops.not_ends (ends_of_opens opens whole) among
  · obtain ⟨tail,n,ends,begins⟩ := stops.exists_ends opens.low_le_high
    obtain ⟨-,whole⟩ := encode_of_opens opens ends
    exact ⟨Char.ofNat n,whole ▸ (List.prefix_cons_inj b).mpr begins⟩
  · rintro b' more rfl ⟨c,first⟩
    obtain ⟨b'',tail,whole⟩ := exists_encode_cons c
    rw [whole] at first
    obtain ⟨rfl,among⟩ := List.cons_prefix_cons.mp first
    exact stops.not_longer (ends_of_opens opens whole) among

theorem broken_of_fault (fault : lead b = .fault) (rest : List UInt8) : Broken [b] rest := by
  have never {c : Char} {more : List UInt8} : ¬b :: more <+: String.utf8EncodeChar c := by
    rintro ⟨tail,same⟩
    exact lead_ne_fault same.symm fault
  refine ⟨fun c first => ?_,List.cons_ne_nil b [],.inl rfl,fun b' more _ begins => never begins.choose_spec⟩
  obtain ⟨b',tail,whole⟩ := exists_encode_cons c
  rw [whole] at first
  obtain ⟨rfl,-⟩ := List.cons_prefix_cons.mp first
  exact lead_ne_fault whole fault

end Sequences

section Scanning

variable {b : UInt8} {p : Pending} {bytes got tail rest : List UInt8} {n : Nat} {c : Char}

theorem step_last (one : p.needed ≤ 1) (admits : p.Admits b) :
    step (some p) b = ([some (Char.ofNat (p.add b).value)],none) := by
  have inside : p.low ≤ b ∧ b ≤ p.high := admits
  simp only [step,if_pos inside,if_pos one,Pending.add]

theorem step_next (several : ¬p.needed ≤ 1) (admits : p.Admits b) : step (some p) b = ([],some (p.add b)) := by
  have inside : p.low ≤ b ∧ b ≤ p.high := admits
  simp only [step,if_pos inside,if_neg several,Pending.add]

theorem step_refused (refused : ¬p.Admits b) : step (some p) b = (none :: (step none b).1,(step none b).2) := by
  have outside : ¬(p.low ≤ b ∧ b ≤ p.high) := refused
  simp only [step,if_neg outside]

theorem scan_ends (ends : Ends p tail n) (rest : List UInt8) :
    scan (some p) (tail ++ rest) = some (Char.ofNat n) :: scan none rest := by
  induction ends with
  | last one admits =>
    rw [List.singleton_append,scan,step_last one admits]
    rfl
  | next several admits _ ih =>
    rw [List.cons_append,scan,step_next several admits]
    exact ih

theorem scan_stops (stops : Stops p got rest) : scan (some p) (got ++ rest) = none :: scan none rest := by
  induction stops with
  | @here p rest refused =>
    cases rest with
    | nil => rfl
    | cons b more =>
      rw [List.nil_append,scan,step_refused (refused b more rfl),scan]
      rfl
  | next several admits _ ih =>
    rw [List.cons_append,scan,step_next several admits]
    exact ih

theorem scan_char (found : lead b = .char c) : scan none (b :: rest) = some c :: scan none rest := by
  rw [scan,step,step.fresh,found]
  rfl

theorem scan_fault (found : lead b = .fault) : scan none (b :: rest) = none :: scan none rest := by
  rw [scan,step,step.fresh,found]
  rfl

theorem scan_more (found : lead b = .more p) : scan none (b :: rest) = scan (some p) rest := by
  rw [scan,step,step.fresh,found]
  rfl

theorem scan_encode (c : Char) (rest : List UInt8) :
    scan none (String.utf8EncodeChar c ++ rest) = some c :: scan none rest := by
  rcases encode_cases c with ⟨b,whole,found⟩ | ⟨b,tail,p,whole,opens,ends⟩
  · rw [whole,List.singleton_append,scan_char found]
  · rw [whole,List.cons_append,scan_more (opens_iff.mpr opens),scan_ends ends,Char.ofNat_toNat]

/-- What a stream begins with is a character or a fault, and so it is read. -/
theorem scan_cons (b : UInt8) (bytes : List UInt8) :
    (∃ c rest, b :: bytes = String.utf8EncodeChar c ++ rest) ∨
    ∃ front rest, b :: bytes = front ++ rest ∧ Broken front rest ∧ scan none (b :: bytes) = none :: scan none rest := by
  cases found : lead b with
  | char c => exact .inl ⟨c,bytes,by rw [encode_of_lead_char found]; rfl⟩
  | fault => exact .inr ⟨[b],bytes,rfl,broken_of_fault found bytes,scan_fault found⟩
  | more p =>
    have opens := opens_iff.mp found
    rcases ends_or_stops p bytes with ⟨tail,rest,n,rfl,ends⟩ | ⟨got,rest,rfl,stops⟩
    · exact .inl ⟨Char.ofNat n,rest,by rw [(encode_of_opens opens ends).2]; rfl⟩
    · refine .inr ⟨b :: got,rest,rfl,stops.broken opens,?_⟩
      rw [scan_more found,scan_stops stops]

theorem Broken.no_longer {front more rest later : List UInt8} (one : Broken front (more ++ rest))
    (other : Broken (front ++ more) later) : more = [] := by
  cases more with
  | nil => rfl
  | cons b more =>
    have begins : Begins (front ++ b :: more) := by
      refine other.begins.resolve_left ?_
      have filled := List.length_pos_iff.mpr one.filled
      simp only [List.length_append,List.length_cons]
      omega
    obtain ⟨c,first⟩ := begins
    refine absurd ⟨c,List.IsPrefix.trans ?_ first⟩ (one.longest b (more ++ rest) rfl)
    exact (List.prefix_append_right_inj front).mpr ⟨more,rfl⟩

theorem Broken.unique {one other rest later : List UInt8} (broken : Broken one rest) (also : Broken other later)
    (same : one ++ rest = other ++ later) : one = other ∧ rest = later := by
  rcases List.append_eq_append_iff.mp same with ⟨more,rfl,rfl⟩ | ⟨more,rfl,rfl⟩
  · simp [broken.no_longer also]
  · simp [also.no_longer broken]

/-- Reading is decided by the bytes alone, and done byte by byte. -/
theorem reads_iff {bytes : List UInt8} {read : List (Option Char)} : Reads bytes read ↔ scan none bytes = read := by
  constructor
  · intro reads
    induction reads with
    | done => rfl
    | char c _ ih => rw [scan_encode,ih]
    | @fault front rest later broken _ ih =>
      obtain ⟨b,more,rfl⟩ := List.exists_cons_of_ne_nil broken.filled
      rcases scan_cons b (more ++ rest) with ⟨c,later,first⟩ | ⟨front,later,whole,also,scanned⟩
      · exact absurd ⟨later,first.symm⟩ (broken.absent c)
      · obtain ⟨-,rfl⟩ := broken.unique also whole
        rw [List.cons_append,scanned,ih]
  · rintro rfl
    induction size : bytes.length using Nat.strongRecOn generalizing bytes with
    | ind size ih =>
      cases bytes with
      | nil => exact .done
      | cons b bytes =>
        rcases scan_cons b bytes with ⟨c,rest,whole⟩ | ⟨front,rest,whole,broken,scanned⟩
        · have filled := Char.utf8Size_pos c
          rw [whole,List.length_append,String.length_utf8EncodeChar] at size
          rw [whole,scan_encode]
          exact .char c (ih rest.length (by omega) rfl)
        · have filled := List.length_pos_iff.mpr broken.filled
          rw [whole,List.length_append] at size
          rw [scanned,whole]
          exact .fault broken (ih rest.length (by omega) rfl)

/-- Where a character is read, its encoding stands. -/
theorem Reads.encode_stands {bytes : List UInt8} {read : List (Option Char)} (reads : Reads bytes read)
    (member : some c ∈ read) : String.utf8EncodeChar c <:+: bytes := by
  induction reads with
  | done => cases member
  | @char c' rest later reads ih =>
    rcases List.mem_cons.mp member with same | inside
    · cases same
      exact (List.prefix_append _ rest).isInfix
    · exact (ih inside).trans (List.suffix_append _ rest).isInfix
  | @fault front rest later broken reads ih =>
    have inside := (List.mem_cons.mp member).resolve_left (Option.some_ne_none c)
    exact (ih inside).trans (List.suffix_append front rest).isInfix

theorem low_ge_of_step {before : Option Pending} (left : (step before b).2 = some p) : 0x80 ≤ p.low := by
  have fresh (opened : (step none b).2 = some p) : 0x80 ≤ p.low := by
    rw [step,step.fresh] at opened
    split at opened
    · cases opened
    · cases opened
    next found =>
      cases opened
      exact (opens_iff.mp found).low_ge
  cases before with
  | none => exact fresh left
  | some q =>
    by_cases admits : q.Admits b
    · by_cases one : q.needed ≤ 1
      · rw [step_last one admits] at left
        cases left
      · rw [step_next one admits] at left
        cases left
        exact UInt8.le_refl 0x80
    · rw [step_refused admits] at left
      exact fresh left

/-- A byte below `0x80` is no part of a sequence, so a stream may be read in parts that end before one. -/
theorem scan_append_ascii {before : Option Pending} (range : ∀ p, before = some p → 0x80 ≤ p.low) (ascii : b < 0x80)
    (bytes rest : List UInt8) : scan before (bytes ++ b :: rest) = scan before bytes ++ scan none (b :: rest) := by
  induction bytes generalizing before with
  | nil =>
    cases before with
    | none => rfl
    | some p =>
      have refused : ¬p.Admits b := fun admits => UInt8.not_le.mpr ascii (UInt8.le_trans (range p rfl) admits.1)
      rw [List.nil_append,scan,scan,step_refused refused,scan]
      rfl
  | cons x bytes ih =>
    rw [List.cons_append,scan,scan,ih (fun _ => low_ge_of_step),List.append_assoc]

end Scanning

section Decoding

theorem mapM_id_eq_some_iff {α : Type} {found : List (Option α)} {all : List α} :
    found.mapM id = some all ↔ found = all.map some := by
  induction found generalizing all with
  | nil => cases all <;> simp
  | cons x found ih =>
    cases x with
    | none => cases all <;> simp [List.mapM_cons]
    | some x =>
      rw [List.mapM_cons]
      constructor
      · intro whole
        obtain ⟨_,same,whole⟩ := Option.bind_eq_some_iff.mp whole
        obtain ⟨rest,found,same'⟩ := Option.bind_eq_some_iff.mp whole
        cases same
        cases same'
        rw [ih.mp found,List.map_cons]
      · intro whole
        obtain ⟨_,rest,rfl,same,later⟩ := List.map_eq_cons_iff.mp whole.symm
        cases same
        rw [ih.mpr later.symm]
        rfl

theorem reads_encode (cs : List Char) : Reads (cs.flatMap String.utf8EncodeChar) (cs.map some) := by
  induction cs with
  | nil => exact .done
  | cons c cs ih => exact .char c ih

theorem Reads.eq_encode {bytes : List UInt8} {cs : List Char} (reads : Reads bytes (cs.map some)) :
    bytes = cs.flatMap String.utf8EncodeChar := by
  generalize found : cs.map some = read at reads
  induction reads generalizing cs with
  | done => rw [List.map_eq_nil_iff.mp found]; rfl
  | char c _ ih =>
    obtain ⟨_,later,rfl,same,rest⟩ := List.map_eq_cons_iff.mp found
    cases same
    rw [List.flatMap_cons,ih rest]
  | fault =>
    obtain ⟨_,_,_,same,_⟩ := List.map_eq_cons_iff.mp found
    cases same

/-- A text is read from its own encoding, and from nothing else. -/
theorem decode?_eq_some_iff {bytes : List UInt8} {s : String} : decode? bytes = some s ↔ bytes = encode s := by
  have written : decode? bytes = some s ↔ scan none bytes = s.toList.map some := by
    rw [decode?,Option.map_eq_some_iff,← mapM_id_eq_some_iff]
    constructor
    · rintro ⟨cs,all,rfl⟩
      rw [all,String.toList_ofList]
    · exact fun all => ⟨_,all,String.ofList_toList⟩
  rw [written,← reads_iff]
  constructor
  · exact Reads.eq_encode
  · rintro rfl
    exact reads_encode s.toList

theorem decode?_eq_none_iff {bytes : List UInt8} : decode? bytes = none ↔ ¬∃ s, bytes = encode s := by
  simp [Option.eq_none_iff_forall_ne_some,decode?_eq_some_iff]

theorem encode_injective : encode.Injective := by
  intro s s' same
  have read := decode?_eq_some_iff.mpr same
  rw [decode?_eq_some_iff.mpr rfl] at read
  exact Option.some.inj read

end Decoding

end Hostkeeper.Text.Utf8
