import Hostkeeper.KeyMap
import Mathlib.Data.List.Nodup
import Mathlib.Data.List.Pairwise
import Mathlib.Data.List.Perm.Subperm

/-! Look-ups after every operation on maps. A map is determined by its look-ups, and its entries
are exactly the keys that are found with what is found under them. -/
namespace Hostkeeper

theorem eq_of_nodup_filterMap {α β : Type} {f : α → Option β} {items : List α} {a b : α} {x : β}
    (distinct : (items.filterMap f).Nodup) (member : a ∈ items) (also : b ∈ items) (first : f a = some x)
    (second : f b = some x) : a = b := by
  have pairs := List.pairwise_filterMap.mp distinct
  have symmetric : Std.Symm fun a b => ∀ x, f a = some x → ∀ y, f b = some y → x ≠ y :=
    ⟨fun _ _ apart x hx y hy => (apart y hy x hx).symm⟩
  by_contra different
  exact pairs.forall member also different x first x second rfl

theorem mem_of_lookupEntry {α : Type} {key : String} {value : α} {entries : List (String × α)}
    (found : lookupEntry key entries = some value) : (key,value) ∈ entries := by
  induction entries with
  | nil => simp [lookupEntry] at found
  | cons entry rest ih =>
    unfold lookupEntry at found
    split at found
    next same =>
      cases Option.some.inj found
      exact List.mem_cons.mpr (.inl (by rw [same]))
    next => exact List.mem_cons_of_mem _ (ih found)

theorem lookupEntry_of_mem {α : Type} {key : String} {value : α} {entries : List (String × α)}
    (distinct : (entries.map (·.1)).Nodup) (member : (key,value) ∈ entries) :
    lookupEntry key entries = some value := by
  induction entries with
  | nil => simp at member
  | cons entry rest ih =>
    obtain ⟨absent,tail⟩ := List.nodup_cons.mp distinct
    unfold lookupEntry
    rcases List.mem_cons.mp member with rfl | inside
    · simp
    · have other : key ≠ entry.1 := by
        rintro rfl
        exact absent (List.mem_map.mpr ⟨_,inside,rfl⟩)
      rw [if_neg other]
      exact ih tail inside

theorem lookupEntry_ne_none {α : Type} {key : String} {value : α} {entries : List (String × α)}
    (member : (key,value) ∈ entries) : lookupEntry key entries ≠ none := by
  induction entries with
  | nil => simp at member
  | cons entry rest ih =>
    rw [lookupEntry]
    split
    · simp
    next other =>
      rcases List.mem_cons.mp member with rfl | inside
      · exact absurd rfl other
      · exact ih inside

theorem lookupEntry_append {α : Type} (key : String) (first second : List (String × α)) :
    lookupEntry key (first ++ second) = (lookupEntry key first).or (lookupEntry key second) := by
  induction first with
  | nil => rfl
  | cons entry rest ih =>
    simp only [List.cons_append,lookupEntry,ih]
    split <;> rfl

theorem lookupEntry_map {α β : Type} (f : String → α → β) (key : String) (entries : List (String × α)) :
    lookupEntry key (entries.map fun e => (e.1,f e.1 e.2)) = (lookupEntry key entries).map (f key) := by
  induction entries with
  | nil => rfl
  | cons entry rest ih =>
    simp only [List.map_cons,lookupEntry,ih]
    split
    next same => rw [same]; rfl
    next => rfl

theorem lookupEntry_filter_key {α : Type} (keep : String → Bool) (key : String) (entries : List (String × α)) :
    lookupEntry key (entries.filter fun e => keep e.1) = if keep key then lookupEntry key entries else none := by
  induction entries with
  | nil => simp [lookupEntry]
  | cons entry rest ih =>
    by_cases kept : keep entry.1 = true <;> by_cases same : key = entry.1 <;>
      simp_all [lookupEntry]

theorem lookupEntry_of_forall₂ {α β : Type} {r : α → β → Prop} {a : List (String × α)} {b : List (String × β)}
    (related : List.Forall₂ (fun x y => x.1 = y.1 ∧ r x.2 y.2) a b) (key : String) :
    Option.Rel r (lookupEntry key a) (lookupEntry key b) := by
  induction related with
  | nil => exact .none
  | cons head _ ih =>
    simp only [lookupEntry,head.1]
    split
    · exact .some head.2
    · exact ih

private theorem lookupEntry_below {α : Type} {key : String} {entries : List (String × α)}
    (below : ∀ e ∈ entries, key < e.1) : lookupEntry key entries = none := by
  cases found : lookupEntry key entries with
  | none => rfl
  | some value => exact absurd (below _ (mem_of_lookupEntry found)) (String.lt_irrefl key)

theorem forall₂_of_lookupEntry {α β : Type} {r : α → β → Prop} {a : List (String × α)} {b : List (String × β)}
    (sorted_a : a.Pairwise (·.1 < ·.1)) (sorted_b : b.Pairwise (·.1 < ·.1))
    (related : ∀ key, Option.Rel r (lookupEntry key a) (lookupEntry key b)) :
    List.Forall₂ (fun x y => x.1 = y.1 ∧ r x.2 y.2) a b := by
  induction a generalizing b with
  | nil =>
    cases b with
    | nil => exact .nil
    | cons y ys => simpa [lookupEntry] using related y.1
  | cons x xs ih =>
    cases b with
    | nil => simpa [lookupEntry] using related x.1
    | cons y ys =>
      obtain ⟨above_x,tail_x⟩ := List.pairwise_cons.mp sorted_a
      obtain ⟨above_y,tail_y⟩ := List.pairwise_cons.mp sorted_b
      -- The smaller head would be found in the other list, where nothing is below the head.
      have keys : x.1 = y.1 := by
        by_contra differ
        rcases Std.lt_trichotomy x.1 y.1 with below | same | below
        · have absent : lookupEntry x.1 ys = none :=
            lookupEntry_below fun e member => String.lt_trans below (above_y e member)
          simpa [lookupEntry,differ,absent] using related x.1
        · exact differ same
        · have absent : lookupEntry y.1 xs = none :=
            lookupEntry_below fun e member => String.lt_trans below (above_x e member)
          simpa [lookupEntry,Ne.symm differ,absent] using related y.1
      refine .cons ⟨keys,?_⟩ (ih tail_x tail_y fun key => ?_)
      · simpa [lookupEntry,keys] using related y.1
      · by_cases same : key = y.1
        · rw [same,lookupEntry_below fun e member => keys ▸ above_x e member,lookupEntry_below above_y]
          exact .none
        · simpa [lookupEntry,keys,same] using related key

namespace KeyMap

variable {α β : Type}

theorem keys_nodup (m : KeyMap α) : m.keys.Nodup := by
  refine List.pairwise_map.mpr (m.sorted.imp ?_)
  intro a b below same
  exact String.lt_irrefl b.1 (same ▸ below)

theorem mem_entries_iff (m : KeyMap α) (key : String) (value : α) :
    (key,value) ∈ m.entries ↔ m.get? key = some value :=
  ⟨lookupEntry_of_mem m.keys_nodup,mem_of_lookupEntry⟩

theorem mem_keys_iff (m : KeyMap α) (key : String) : key ∈ m.keys ↔ (m.get? key).isSome := by
  rw [Option.isSome_iff_exists]
  constructor
  · intro member
    obtain ⟨⟨_,value⟩,inside,rfl⟩ := List.mem_map.mp member
    exact ⟨value,(m.mem_entries_iff _ value).mp inside⟩
  · rintro ⟨value,found⟩
    exact List.mem_map.mpr ⟨(key,value),(m.mem_entries_iff key value).mpr found,rfl⟩

theorem mem_values_iff (m : KeyMap α) (value : α) : value ∈ m.values ↔ ∃ key, m.get? key = some value := by
  constructor
  · intro member
    obtain ⟨⟨key,_⟩,inside,rfl⟩ := List.mem_map.mp member
    exact ⟨key,(m.mem_entries_iff key _).mp inside⟩
  · rintro ⟨key,found⟩
    exact List.mem_map.mpr ⟨(key,value),(m.mem_entries_iff key value).mpr found,rfl⟩

@[simp] theorem get?_erase (m : KeyMap α) (key wanted : String) :
    (m.erase key).get? wanted = if wanted = key then none else m.get? wanted := by
  have kept := lookupEntry_filter_key (fun k => decide (k ≠ key)) wanted m.entries
  by_cases same : wanted = key <;> simp_all [get?,erase]

@[simp] theorem get?_map (f : String → α → β) (m : KeyMap α) (key : String) :
    (m.map f).get? key = (m.get? key).map (f key) := lookupEntry_map f key m.entries

/-- Later entries win over earlier ones, and all of them over the map. -/
theorem get?_insertAll (m : KeyMap α) (entries : List (String × α)) (key : String) :
    (m.insertAll entries).get? key = (lookupEntry key entries.reverse).or (m.get? key) := by
  induction entries generalizing m with
  | nil => rfl
  | cons entry rest ih =>
    change ((m.insert entry.1 entry.2).insertAll rest).get? key = _
    rw [ih,List.reverse_cons,lookupEntry_append,Option.or_assoc]
    congr 1
    simp only [lookupEntry,get?_insert]
    split <;> rfl

theorem get?_ofList (entries : List (String × α)) (key : String) :
    (ofList entries).get? key = lookupEntry key entries.reverse := by
  simp [ofList,get?_insertAll]

theorem get?_ofList_iff (entries : List (String × α)) (distinct : (entries.map (·.1)).Nodup)
    (key : String) (value : α) : (ofList entries).get? key = some value ↔ (key,value) ∈ entries := by
  rw [get?_ofList]
  have reversed : (entries.reverse.map (·.1)).Nodup := by
    rw [List.map_reverse]
    exact List.nodup_reverse.mpr distinct
  exact ⟨fun found => List.mem_reverse.mp (mem_of_lookupEntry found),
    fun member => lookupEntry_of_mem reversed (List.mem_reverse.mpr member)⟩

theorem mem_of_get?_ofList {entries : List (String × α)} {key : String} {value : α}
    (found : (ofList entries).get? key = some value) : (key,value) ∈ entries := by
  rw [get?_ofList] at found
  exact List.mem_reverse.mp (mem_of_lookupEntry found)

theorem exists_get?_ofList {entries : List (String × α)} {key : String} {value : α}
    (member : (key,value) ∈ entries) : ∃ last, (ofList entries).get? key = some last := by
  cases found : (ofList entries).get? key with
  | some last => exact ⟨last,rfl⟩
  | none =>
    rw [get?_ofList] at found
    exact absurd found (lookupEntry_ne_none (List.mem_reverse.mpr member))

/-- Two maps have the same keys, and what they hold under a key is related. -/
def Matches (r : α → β → Prop) (a : KeyMap α) (b : KeyMap β) : Prop :=
  ∀ key, Option.Rel r (a.get? key) (b.get? key)

theorem Matches.after {r : α → β → Prop} {a : KeyMap α} {b : KeyMap β} (related : a.Matches r b) {key : String}
    {x : α} (found : a.get? key = some x) : ∃ y, b.get? key = some y ∧ r x y := by
  have relation := related key
  rw [found] at relation
  cases held : b.get? key with
  | none => simp [held] at relation
  | some y => exact ⟨y,rfl,by simpa [held] using relation⟩

theorem Matches.before {r : α → β → Prop} {a : KeyMap α} {b : KeyMap β} (related : a.Matches r b) {key : String}
    {y : β} (held : b.get? key = some y) : ∃ x, a.get? key = some x ∧ r x y := by
  have relation := related key
  rw [held] at relation
  cases found : a.get? key with
  | none => simp [found] at relation
  | some x => exact ⟨x,rfl,by simpa [found] using relation⟩

theorem matches_of_found {r : α → β → Prop} {a : KeyMap α} {b : KeyMap β}
    (after : ∀ key x, a.get? key = some x → ∃ y, b.get? key = some y ∧ r x y)
    (before : ∀ key y, b.get? key = some y → ∃ x, a.get? key = some x ∧ r x y) : a.Matches r b := by
  intro key
  cases found : a.get? key with
  | some x =>
    obtain ⟨y,held,relation⟩ := after key x found
    rw [held]
    exact .some relation
  | none =>
    cases held : b.get? key with
    | none => exact .none
    | some y =>
      obtain ⟨x,present,_⟩ := before key y held
      cases found.symm.trans present

theorem matches_map {γ δ : Type} (r : γ → δ → Prop) (f : String → α → γ) (g : String → β → δ)
    (a : KeyMap α) (b : KeyMap β) : (a.map f).Matches r (b.map g) ↔
      ∀ key, Option.Rel (fun x y => r (f key x) (g key y)) (a.get? key) (b.get? key) := by
  refine forall_congr' fun key => ?_
  rw [get?_map,get?_map]
  cases a.get? key <;> cases b.get? key <;> simp

/-- Matching maps match entry by entry, as both list their entries in key order. -/
theorem matches_iff (r : α → β → Prop) (a : KeyMap α) (b : KeyMap β) :
    a.Matches r b ↔ List.Forall₂ (fun x y => x.1 = y.1 ∧ r x.2 y.2) a.entries b.entries := by
  constructor
  · exact fun related => forall₂_of_lookupEntry a.sorted b.sorted related
  · exact fun related key => lookupEntry_of_forall₂ related key

theorem ext_get? {a b : KeyMap α} (same : ∀ key, a.get? key = b.get? key) : a = b := by
  have related : a.Matches (· = ·) b := by
    intro key
    rw [same]
    cases b.get? key <;> simp
  refine ext (List.forall₂_eq_eq_eq ▸ ((matches_iff _ a b).mp related).imp ?_)
  intro x y equal
  exact Prod.ext equal.1 equal.2

@[simp] theorem ofList_entries (m : KeyMap α) : ofList m.entries = m := by
  refine ext_get? fun key => Option.ext fun value => ?_
  rw [get?_ofList_iff m.entries m.keys_nodup,mem_entries_iff]

/-- Entries that stand in key order are kept as they stand. -/
theorem entries_ofList {entries : List (String × α)} (sorted : entries.Pairwise (·.1 < ·.1)) :
    (ofList entries).entries = entries := congrArg KeyMap.entries (ofList_entries ⟨entries,sorted⟩)

theorem ofList_perm {entries others : List (String × α)} (perm : others.Perm entries)
    (distinct : (entries.map (·.1)).Nodup) : ofList others = ofList entries := by
  have also : (others.map (·.1)).Nodup := (perm.map _).nodup_iff.mpr distinct
  refine ext_get? fun key => Option.ext fun value => ?_
  rw [get?_ofList_iff others also,get?_ofList_iff entries distinct,perm.mem_iff]

/-- No entry takes the place of another exactly if they have keys of their own. -/
theorem size_ofList_iff (entries : List (String × α)) :
    (ofList entries).size = entries.length ↔ (entries.map (·.1)).Nodup := by
  have inside : (ofList entries).keys ⊆ entries.map (·.1) := by
    intro key member
    obtain ⟨value,found⟩ := Option.isSome_iff_exists.mp ((mem_keys_iff _ key).mp member)
    exact List.mem_map_of_mem (mem_of_get?_ofList found)
  have size : (ofList entries).keys.length = (ofList entries).size := List.length_map _
  constructor
  · intro full
    have fewer : (entries.map (·.1)).length ≤ (ofList entries).keys.length := by simp [size,full]
    exact ((List.subperm_of_subset (keys_nodup _) inside).perm_of_length_le fewer).nodup_iff.mp (keys_nodup _)
  · intro distinct
    have covered : entries.map (·.1) ⊆ (ofList entries).keys := by
      intro key member
      obtain ⟨⟨_,value⟩,present,rfl⟩ := List.mem_map.mp member
      rw [mem_keys_iff,(get?_ofList_iff entries distinct _ value).mpr present]
      rfl
    have perm := (List.subperm_of_subset (keys_nodup _) inside).antisymm (List.subperm_of_subset distinct covered)
    simpa [size] using perm.length_eq

theorem get?_merge (m other : KeyMap α) (key : String) :
    (m.merge other).get? key = (other.get? key).or (m.get? key) := by
  rw [merge,get?_insertAll,← get?_ofList,ofList_entries]

theorem get?_modify (m : KeyMap α) (key wanted : String) (f : α → α) :
    (m.modify key f).get? wanted = if wanted = key then (m.get? key).map f else m.get? wanted := by
  unfold modify
  cases found : m.get? key with
  | none =>
    by_cases same : wanted = key
    · rw [if_pos same,same]
      exact found
    · exact (if_neg same).symm
  | some value => exact get?_insert m key wanted (f value)

theorem modify_eq_self (m : KeyMap α) (key : String) (f : α → α)
    (fixed : ∀ value, m.get? key = some value → f value = value) : m.modify key f = m := by
  refine ext_get? fun wanted => ?_
  rw [get?_modify]
  split
  next same =>
    rw [same]
    cases found : m.get? key with
    | none => rfl
    | some value => exact congrArg some (fixed value found)
  next => rfl

theorem get?_filter (keep : String → α → Bool) (m : KeyMap α) (key : String) :
    (m.filter keep).get? key = (m.get? key).filter (keep key) := by
  refine Option.ext fun value => ?_
  rw [← mem_entries_iff,filter,List.mem_filter,mem_entries_iff,Option.filter_eq_some_iff]

theorem contains_insert (m : KeyMap α) (key wanted : String) (value : α) :
    (m.insert key value).contains wanted = (decide (wanted = key) || m.contains wanted) := by
  rw [contains,contains,get?_insert]
  split <;> simp [*]

theorem contains_modify (m : KeyMap α) (key wanted : String) (f : α → α) :
    (m.modify key f).contains wanted = m.contains wanted := by
  rw [contains,contains,get?_modify]
  split
  next same => rw [same,Option.isSome_map]
  next => rfl

end KeyMap

end Hostkeeper
