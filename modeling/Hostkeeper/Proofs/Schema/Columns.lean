import Hostkeeper.Proofs.Schema.Record

/-! What the columns of a table take. A kind tells what each value stands for, and what is wrong with a value that
stands for nothing. A cell is a place in a record for such a value, with what is there when the column is unset. -/
namespace Hostkeeper

namespace Word

variable {α : Type} [Word α] [LawfulWord α]

theorem text_injective : (Word.text (α := α)).Injective := by
  intro w w' same
  have found := LawfulWord.read?_text w
  rw [same,LawfulWord.read?_text w'] at found
  exact (Option.some.inj found).symm

theorem mem_all (w : α) : w ∈ Word.all (α := α) := List.mem_of_find?_eq_some (LawfulWord.read?_text w)

theorem read?_eq_some_iff {s : String} {w : α} : read? s = some w ↔ Text.lower (Text.trim s) = text w := by
  constructor
  · intro found
    have same := List.find?_some found
    exact (of_decide_eq_true same).symm
  · intro same
    cases found : read? (α := α) s with
    | none =>
      have other := List.find?_eq_none.mp found w (mem_all w)
      exact absurd (decide_eq_true same.symm) other
    | some w' =>
      have same' := List.find?_some found
      exact congrArg some (text_injective ((of_decide_eq_true same').trans same))

end Word

namespace Column

structure Kind (β : Type) where
  Means : Json → β → Prop
  fault : Json → ColumnFault
  unique : ∀ {v x y}, Means v x → Means v y → x = y
  notNull : ∀ x, ¬Means .null x

/-- A value is taken as what it stands for, or not at all. -/
inductive Kind.Reads {β : Type} (kind : Kind β) (v : Json) : Except ColumnFault β → Prop
  | taken {x} (means : kind.Means v x) : Reads kind v (.ok x)
  | refused (none : ∀ x, ¬kind.Means v x) : Reads kind v (.error (kind.fault v))

namespace Kind

def text : Kind String where
  Means v s := v = .text s
  fault v := .wrongType v .text
  unique one other := Json.text.inj (one.symm.trans other)
  notNull _ := nofun

/-- One of a few words, with blanks around it or without, in letters of either case. -/
def word (α : Type) [Word α] [LawfulWord α] : Kind α where
  Means v w := ∃ s, v = .text s ∧ Text.lower (Text.trim s) = Word.text w
  fault
    | .text s => .unknownWord (Word.column α) s
    | v => .wrongType v .text
  unique := by
    rintro _ w w' ⟨s,rfl,one⟩ ⟨_,same,other⟩
    cases same
    exact Word.text_injective (one.symm.trans other)
  notNull := by simp

/-- An integer that a type has a number for. -/
def whole {β : Type} (type : ColumnType) (number : β → Int) (injective : number.Injective) : Kind β where
  Means v x := v = .int (number x)
  fault
    | .int n => .outOfRange n type
    | v => .wrongType v type
  unique one other := injective (Json.int.inj (one.symm.trans other))
  notNull _ := nofun

def word16 : Kind UInt16 := whole .word16 (fun n => (n.toNat : Int))
  fun _ _ same => UInt16.toNat_inj.mp (Int.ofNat_inj.mp same)

def word32 : Kind UInt32 := whole .word32 (fun n => (n.toNat : Int))
  fun _ _ same => UInt32.toNat_inj.mp (Int.ofNat_inj.mp same)

def word64 : Kind UInt64 := whole .word64 (fun n => (n.toNat : Int))
  fun _ _ same => UInt64.toNat_inj.mp (Int.ofNat_inj.mp same)

def int64 : Kind Int64 := whole .int64 Int64.toInt fun _ _ => Int64.toInt_inj.mp

/-- Any number. An integer stands for the float nearest to it. -/
def real : Kind Binary64 where
  Means v x := v = .real x ∨ ∃ n, v = .int n ∧ x = .ofInt n
  fault v := .wrongType v .real
  unique := by
    rintro _ x y (rfl | ⟨n,rfl,rfl⟩) (same | ⟨m,same,also⟩) <;> cases same
    · rfl
    · exact also.symm
  notNull := by simp

/-- Some texts. A text by itself stands for a list of one. -/
def texts : Kind (List String) where
  Means v items := v = .list (items.map .text) ∨ ∃ s, v = .text s ∧ items = [s]
  fault _ := .neitherTextNorTexts
  unique := by
    rintro _ x y (rfl | ⟨s,rfl,rfl⟩) (same | ⟨s',same,also⟩)
    · exact List.map_injective_iff.mpr (fun _ _ => Json.text.inj) (Json.list.inj same)
    · cases same
    · cases same
    · rw [also,Json.text.inj same]
  notNull := by simp

theorem reads_text (v : Json) : text.Reads v (takeText v) := by
  cases v with
  | text s => exact .taken rfl
  | null | bool | int | real | list | object => exact .refused (by simp [text])

theorem reads_word {α : Type} [Word α] [LawfulWord α] (v : Json) : (word α).Reads v (takeWord v) := by
  cases v with
  | text s =>
    cases found : Word.read? (α := α) s with
    | some w =>
      have taken : takeWord (.text s) = .ok w := by simp only [takeWord,takeText,bind,Except.bind,found]
      rw [taken]
      exact .taken ⟨s,rfl,Word.read?_eq_some_iff.mp found⟩
    | none =>
      have refused : takeWord (α := α) (.text s) = .error (.unknownWord (Word.column α) s) := by
        simp only [takeWord,takeText,bind,Except.bind,found]
      rw [refused]
      refine .refused fun w => ?_
      rintro ⟨_,same,means⟩
      cases same
      exact absurd (Word.read?_eq_some_iff.mpr means) (by simp [found])
  | null | bool | int | real | list | object => exact .refused (by simp [word])

theorem reads_real (v : Json) : real.Reads v (takeReal v) := by
  cases v with
  | int n => exact .taken (.inr ⟨n,rfl,rfl⟩)
  | real x => exact .taken (.inl rfl)
  | null | bool | text | list | object => exact .refused (by simp [real])

theorem reads_texts {v : Json} (notNull : v ≠ .null) : texts.Reads v (takeTexts v) := by
  cases v with
  | null => exact absurd rfl notNull
  | text s => exact .taken (.inr ⟨s,rfl,rfl⟩)
  | list items =>
    rw [takeTexts]
    cases all : items.mapM Json.text? with
    | some found => exact .taken (.inl (congrArg _ (mapM_text?_eq_some_iff.mp all)))
    | none =>
      refine .refused fun found => ?_
      rintro (same | ⟨_,same,-⟩)
      · exact absurd (mapM_text?_eq_some_iff.mpr (Json.list.inj same)) (by simp [all])
      · cases same
  | bool | int | real | object => exact .refused (by simp [texts])

section Whole

variable {β : Type} {type : ColumnType} {number : β → Int} {injective : number.Injective} {least most : Int}
  {make : Int → β}

theorem reads_whole (range : ∀ x, least ≤ number x ∧ number x ≤ most)
    (back : ∀ n, least ≤ n → n ≤ most → number (make n) = n) (v : Json) :
    (whole type number injective).Reads v ((takeInt type least most v).map make) := by
  cases v with
  | int n =>
    rw [takeInt]
    split
    next inside => exact .taken (congrArg _ (back n inside.1 inside.2).symm)
    next outside =>
      refine .refused fun x same => outside ?_
      rw [Json.int.inj same]
      exact range x
  | null | bool | real | text | list | object => exact .refused (by simp [whole])

theorem reads_natural {size : Nat} {toNat : β → Nat} {ofNat : Nat → β}
    {injective : (fun x => (toNat x : Int)).Injective} (lt : ∀ x, toNat x < size)
    (back : ∀ n < size, toNat (ofNat n) = n) (v : Json) : (whole type (fun x => (toNat x : Int)) injective).Reads v
      ((takeInt type 0 (size - 1 : Nat) v).map fun n => ofNat n.toNat) := by
  refine reads_whole (fun x => ?_) (fun n above below => ?_) v
  · have bound := lt x
    omega
  · have some := lt (ofNat 0)
    have same := back n.toNat (by omega)
    omega

theorem reads_word16 (v : Json) : word16.Reads v (takeWord16 v) :=
  reads_natural UInt16.toNat_lt (fun _ => UInt16.toNat_ofNat_of_lt') v

theorem reads_word32 (v : Json) : word32.Reads v (takeWord32 v) :=
  reads_natural UInt32.toNat_lt (fun _ => UInt32.toNat_ofNat_of_lt') v

theorem reads_word64 (v : Json) : word64.Reads v (takeWord64 v) :=
  reads_natural UInt64.toNat_lt (fun _ => UInt64.toNat_ofNat_of_lt') v

theorem reads_int64 (v : Json) : int64.Reads v (takeInt64 v) :=
  reads_whole (fun n => ⟨n.minValue_le_toInt,n.toInt_le⟩) (fun _ above below =>
    Int64.toInt_ofInt_of_le above (Int.lt_of_le_sub_one below)) v

end Whole

end Kind

/-- A place for what is found in a column. Unless null is allowed, a column is unset only if it is absent. -/
structure Cell (γ : Type) where
  {β : Type}
  kind : Kind β
  set : β → γ
  unset : γ
  nullable : Bool

namespace Cell

variable {β γ : Type}

/-- What is found in a column can be taken. -/
def Takes (cell : Cell γ) (found : Option Json) : Prop :=
  ∀ v, found = some v → v = .null ∧ cell.nullable ∨ ∃ y, cell.kind.Means v y

/-- What is kept of what is found in a column. -/
inductive Keeps (cell : Cell γ) : Option Json → γ → Prop
  | absent : Keeps cell none cell.unset
  | null (nullable : cell.nullable) : Keeps cell (some .null) cell.unset
  | value {v y} (means : cell.kind.Means v y) : Keeps cell (some v) (cell.set y)

/-- What is found is kept, or it is the fault of the column. -/
inductive Reads (cell : Cell γ) (found : Option Json) : Except ColumnFault γ → Prop
  | kept {x} (keeps : cell.Keeps found x) : Reads cell found (.ok x)
  | refused {v} (present : found = some v) (not : ¬cell.Takes found) : Reads cell found (.error (cell.kind.fault v))

variable {cell : Cell γ} {found : Option Json}

theorem Keeps.unique {x y : γ} (one : cell.Keeps found x) (other : cell.Keeps found y) : x = y := by
  cases one with
  | absent =>
    cases other
    rfl
  | null =>
    cases other with
    | null => rfl
    | value means => exact absurd means (cell.kind.notNull _)
  | value means =>
    cases other with
    | null => exact absurd means (cell.kind.notNull _)
    | value also => rw [cell.kind.unique means also]

theorem takes_iff : cell.Takes found ↔ ∃ x, cell.Keeps found x := by
  constructor
  · intro takes
    cases found with
    | none => exact ⟨_,.absent⟩
    | some v =>
      rcases takes v rfl with ⟨rfl,nullable⟩ | ⟨y,means⟩
      · exact ⟨_,.null nullable⟩
      · exact ⟨_,.value means⟩
  · rintro ⟨x,keeps⟩ v rfl
    cases keeps with
    | null nullable => exact .inl ⟨rfl,nullable⟩
    | value means => exact .inr ⟨_,means⟩

def optional (kind : Kind β) : Cell (Option β) := ⟨kind,some,none,true⟩

def texts : Cell (List String) := ⟨.texts,id,[],true⟩

def name : Cell String := ⟨.text,id,"",false⟩

theorem reads_value {v : Json} {result : Except ColumnFault cell.β} (set : ¬(v = .null ∧ cell.nullable))
    (reads : cell.kind.Reads v result) : cell.Reads (some v) (result.map cell.set) := by
  cases reads with
  | taken means => exact .kept (.value means)
  | refused none =>
    refine .refused rfl fun takes => ?_
    rcases takes v rfl with null | ⟨y,means⟩
    · exact set null
    · exact none y means

variable {fields : Fields} {column : String}

theorem reads_optional {kind : Kind β} {take : Json → Except ColumnFault β} (reads : ∀ v, kind.Reads v (take v)) :
    (optional kind).Reads (fields.get? column) (Column.optional take fields column) := by
  rw [Column.optional,set?]
  cases fields.get? column with
  | none => exact .kept .absent
  | some v =>
    by_cases null : v = .null
    · subst null
      exact .kept (.null rfl)
    · have present : v.isNull = false := by cases v <;> first | rfl | exact absurd rfl null
      have read : (optional kind).Reads (some v) ((take v).map some) :=
        reads_value (fun unset => null unset.1) (reads v)
      simpa [present] using read

theorem reads_texts : texts.Reads (fields.get? column) (Column.texts fields column) := by
  rw [Column.texts]
  cases fields.get? column with
  | none => exact .kept .absent
  | some v =>
    by_cases null : v = .null
    · subst null
      exact .kept (.null rfl)
    · have read : texts.Reads (some v) ((takeTexts v).map id) :=
        reads_value (fun unset => null unset.1) (Kind.reads_texts null)
      rwa [Except.map_id] at read

theorem reads_name : name.Reads (fields.get? "name") (Column.name fields) := by
  rw [Column.name]
  cases fields.get? "name" with
  | none => exact .kept .absent
  | some v =>
    have read : name.Reads (some v) ((takeText v).map id) :=
      reads_value (fun unset => Bool.noConfusion unset.2) (Kind.reads_text v)
    rwa [Except.map_id] at read

end Cell

end Column

end Hostkeeper
