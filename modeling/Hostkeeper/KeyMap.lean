/-! Finite maps keyed by text. The entries stand in strictly increasing key order, so a map is its list of
entries and two maps with the same look-ups are equal. Main statements: what `insert`, `erase` and
`ofList` do to a look-up. -/
namespace Hostkeeper

/-- Puts an entry at its place in key order, in place of an entry under the same key. -/
def insertEntry {α : Type} (key : String) (value : α) : List (String × α) → List (String × α)
  | [] => [(key,value)]
  | entry :: rest =>
    if key < entry.1 then (key,value) :: entry :: rest
    else if key = entry.1 then (key,value) :: rest
    else entry :: insertEntry key value rest

/-- The value under a key in a list of entries, the first one if the key is repeated. -/
def lookupEntry {α : Type} (key : String) : List (String × α) → Option α
  | [] => none
  | entry :: rest => if key = entry.1 then some entry.2 else lookupEntry key rest

theorem mem_insertEntry {α : Type} {key : String} {value : α} {entries : List (String × α)} {e : String × α}
    (h : e ∈ insertEntry key value entries) : e = (key,value) ∨ e ∈ entries := by
  induction entries with
  | nil => simpa [insertEntry] using h
  | cons entry rest ih =>
    unfold insertEntry at h
    split at h
    · simpa using h
    · split at h
      · rcases List.mem_cons.1 h with h | h
        · exact .inl h
        · exact .inr (List.mem_cons_of_mem _ h)
      · rcases List.mem_cons.1 h with h | h
        · exact .inr (h ▸ List.mem_cons_self)
        · exact (ih h).imp_right (List.mem_cons_of_mem _)

theorem pairwise_insertEntry {α : Type} (key : String) (value : α) {entries : List (String × α)}
    (h : entries.Pairwise (·.1 < ·.1)) : (insertEntry key value entries).Pairwise (·.1 < ·.1) := by
  induction entries with
  | nil => simp [insertEntry]
  | cons entry rest ih =>
    obtain ⟨above,tail⟩ := List.pairwise_cons.1 h
    unfold insertEntry
    split
    · next below =>
      refine List.pairwise_cons.2 ⟨fun e he => ?_,h⟩
      rcases List.mem_cons.1 he with rfl | he
      · exact below
      · exact String.lt_trans below (above e he)
    · split
      · next same => exact List.pairwise_cons.2 ⟨fun e he => same ▸ above e he,tail⟩
      · next below other =>
        refine List.pairwise_cons.2 ⟨fun e he => ?_,ih tail⟩
        rcases mem_insertEntry he with rfl | he
        · rcases Decidable.em (entry.1 < key) with above | notAbove
          · exact above
          · exact absurd (String.le_antisymm (String.not_lt.1 notAbove) (String.not_lt.1 below)) other
        · exact above e he

theorem lookupEntry_insertEntry {α : Type} (key : String) (value : α) (wanted : String)
    (entries : List (String × α)) :
    lookupEntry wanted (insertEntry key value entries) =
      if wanted = key then some value else lookupEntry wanted entries := by
  induction entries with
  | nil => rfl
  | cons entry rest ih =>
    unfold insertEntry
    split
    · rfl
    · split
      · next same =>
        simp only [lookupEntry]
        split <;> simp_all
      · next other =>
        simp only [lookupEntry,ih]
        split <;> simp_all
        intro h
        exact absurd h.symm other

structure KeyMap (α : Type) where
  entries : List (String × α)
  sorted : entries.Pairwise (·.1 < ·.1)

namespace KeyMap

variable {α β : Type}

instance [DecidableEq α] : DecidableEq (KeyMap α) := fun a b =>
  decidable_of_iff (a.entries = b.entries) ⟨fun h => by cases a; cases b; simp_all,fun h => h ▸ rfl⟩

@[ext] theorem ext {a b : KeyMap α} (h : a.entries = b.entries) : a = b := by
  cases a; cases b; simp_all

def empty : KeyMap α := ⟨[],.nil⟩

instance : Inhabited (KeyMap α) := ⟨empty⟩

def get? (m : KeyMap α) (key : String) : Option α := lookupEntry key m.entries

def contains (m : KeyMap α) (key : String) : Bool := (m.get? key).isSome

def insert (m : KeyMap α) (key : String) (value : α) : KeyMap α :=
  ⟨insertEntry key value m.entries,pairwise_insertEntry key value m.sorted⟩

def erase (m : KeyMap α) (key : String) : KeyMap α :=
  ⟨m.entries.filter (·.1 ≠ key),m.sorted.filter _⟩

/-- Later entries win over earlier ones of the same key. -/
def insertAll (m : KeyMap α) (entries : List (String × α)) : KeyMap α :=
  entries.foldl (fun m e => m.insert e.1 e.2) m

def ofList (entries : List (String × α)) : KeyMap α := empty.insertAll entries

def single (key : String) (value : α) : KeyMap α := empty.insert key value

def merge (m other : KeyMap α) : KeyMap α := m.insertAll other.entries

def keys (m : KeyMap α) : List String := m.entries.map (·.1)

def values (m : KeyMap α) : List α := m.entries.map (·.2)

def size (m : KeyMap α) : Nat := m.entries.length

def isEmpty (m : KeyMap α) : Bool := m.entries.isEmpty

def map (f : String → α → β) (m : KeyMap α) : KeyMap β :=
  ⟨m.entries.map fun e => (e.1,f e.1 e.2),List.pairwise_map.2 m.sorted⟩

def filter (keep : String → α → Bool) (m : KeyMap α) : KeyMap α :=
  ⟨m.entries.filter fun e => keep e.1 e.2,m.sorted.filter _⟩

def modify (m : KeyMap α) (key : String) (f : α → α) : KeyMap α :=
  match m.get? key with
  | some value => m.insert key (f value)
  | none => m

@[simp] theorem get?_empty (key : String) : (empty : KeyMap α).get? key = none := rfl

@[simp] theorem get?_insert (m : KeyMap α) (key wanted : String) (value : α) :
    (m.insert key value).get? wanted = if wanted = key then some value else m.get? wanted :=
  lookupEntry_insertEntry key value wanted m.entries

end KeyMap

end Hostkeeper
