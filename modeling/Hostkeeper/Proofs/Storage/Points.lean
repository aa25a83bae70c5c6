import Hostkeeper.Proofs.Text.Lines
import Hostkeeper.Storage
import Mathlib.Data.List.Forall2

/-! What a storage row names: a target at a portal, and where its device is mounted. A mount point that is not set is
made from the name of the target alone, with underscores for colons. So it tells targets apart but not the units of
one target, nor one target at two portals. -/
namespace Hostkeeper.StorageSpec

/-- A column that is unset or holds nothing but blanks. -/
def Blank (value : Option String) : Prop := ∀ s ∈ value, ∀ c ∈ s.toList, Text.isBlank c = true

theorem blank_iff (value : Option String) : Blank value ↔ value.bind Text.trimmed? = none :=
  (Text.bind_trimmed?_eq_none_iff value).symm

theorem target_error_iff (spec : StorageSpec) :
    (∃ e, spec.target = .error e) ↔ Blank spec.targetIqn ∨ Blank spec.portalIp := by
  rw [blank_iff,blank_iff,target]
  cases spec.targetIqn.bind Text.trimmed? <;> cases spec.portalIp.bind Text.trimmed? <;> simp

theorem targetIqn_of_target {spec : StorageSpec} {iqn portal : String} (target : spec.target = .ok (iqn,portal)) :
    spec.targetIqn.bind Text.trimmed? = some iqn := by
  unfold StorageSpec.target at target
  split at target
  next found _ =>
    obtain ⟨rfl,-⟩ := Prod.mk.inj (Except.ok.inj target)
    exact found
  next => cases target
  next => cases target

theorem filled_of_target {spec : StorageSpec} {iqn portal : String} (target : spec.target = .ok (iqn,portal)) :
    iqn ≠ "" := by
  obtain ⟨raw,-,trimmed⟩ := Option.bind_eq_some_iff.mp (targetIqn_of_target target)
  exact (Text.trimmed?_eq_some_iff.mp trimmed).1

theorem exists_mountPoint {spec : StorageSpec} {iqn portal : String} (target : spec.target = .ok (iqn,portal)) :
    ∃ wanted, spec.mountPoint? = some wanted := by
  rw [mountPoint?,targetIqn_of_target target]
  cases spec.mountPoint.bind Text.trimmed? with
  | none => exact ⟨_,rfl⟩
  | some wanted => exact ⟨wanted,rfl⟩

theorem filled_of_mountPoint {spec : StorageSpec} {wanted : String} (found : spec.mountPoint? = some wanted) :
    wanted ≠ "" := by
  rw [mountPoint?,Option.or_eq_some_iff] at found
  rcases found with set | ⟨-,made⟩
  · obtain ⟨raw,-,trimmed⟩ := Option.bind_eq_some_iff.mp set
    exact (Text.trimmed?_eq_some_iff.mp trimmed).1
  · obtain ⟨iqn,-,rfl⟩ := Option.map_eq_some_iff.mp made
    simp [defaultMountRoot,← String.toList_inj]

theorem mountPoint?_of_unset {spec : StorageSpec} {iqn portal : String} (target : spec.target = .ok (iqn,portal))
    (unset : Blank spec.mountPoint) : spec.mountPoint? = some ("/mnt/" ++ Text.replaceChar ':' '_' iqn) := by
  rw [mountPoint?,(blank_iff _).mp unset,targetIqn_of_target target]
  rfl

/-- Two names that are letter for letter the same, except that one may have a colon where the other has an
underscore. -/
def Alike (one other : String) : Prop := List.Forall₂
  (fun c d => c = d ∨ c = ':' ∧ d = '_' ∨ c = '_' ∧ d = ':') one.toList other.toList

theorem replaceChar_eq_iff (one other : String) :
    Text.replaceChar ':' '_' one = Text.replaceChar ':' '_' other ↔ Alike one other := by
  rw [Text.replaceChar,Text.replaceChar,String.ofList_inj,← List.forall₂_eq_eq_eq,List.forall₂_map_left_iff,
    List.forall₂_map_right_iff,Alike]
  have letters (c d : Char) : (if c = ':' then '_' else c) = (if d = ':' then '_' else d) ↔
      c = d ∨ c = ':' ∧ d = '_' ∨ c = '_' ∧ d = ':' := by
    by_cases first : c = ':' <;> by_cases second : d = ':' <;> simp [first,second,eq_comm]
  simp only [letters]

theorem alike_iff_eq {one other : String} (plain : '_' ∉ one.toList) (also : '_' ∉ other.toList) :
    Alike one other ↔ one = other := by
  rw [← String.toList_inj,Alike,← List.forall₂_eq_eq_eq]
  constructor
  · intro alike
    refine List.forall₂_iff_zip.mpr ⟨alike.length_eq,fun {c d} pair => ?_⟩
    rcases (List.forall₂_iff_zip.mp alike).2 pair with same | ⟨-,rfl⟩ | ⟨rfl,-⟩
    · exact same
    · exact absurd (List.of_mem_zip pair).2 also
    · exact absurd (List.of_mem_zip pair).1 plain
  · exact fun same => same.imp fun _ _ => .inl

theorem splitOn_default {name : String} (single : '/' ∉ name.toList) :
    Text.splitOn '/' ("/mnt/" ++ name) = ["","mnt",name] := by
  have whole : Text.splitWhen (· == '/') name.toList = [name.toList] := by
    rw [Text.splitWhen_eq_splitOnP]
    exact Text.splitOn_of_absent single
  simp [Text.splitOn,Text.splitWhen,whole]

theorem pathParts_default {name : String} (single : '/' ∉ name.toList) (filled : name ≠ "") :
    pathParts ("/mnt/" ++ name) = "/" :: "mnt" :: if name = "." then [] else [name] := by
  have root : Text.startsWith ("/mnt/" ++ name) "/" = true := by simp [Text.startsWith]
  rw [pathParts,splitOn_default single,root]
  by_cases here : name = "."
  · simp [here]
  · simp [here,filled]

/-- Different names that are no paths of their own make different paths. -/
theorem samePath_default_iff {one other : String} (single : '/' ∉ one.toList) (also : '/' ∉ other.toList)
    (filled : one ≠ "") (alsoFilled : other ≠ "") : samePath ("/mnt/" ++ one) ("/mnt/" ++ other) ↔ one = other := by
  rw [samePath,pathParts_default single filled,pathParts_default also alsoFilled]
  rw [decide_eq_true_iff,List.cons_inj_right,List.cons_inj_right]
  by_cases here : one = "." <;> by_cases there : other = "."
  · rw [if_pos here,if_pos there,here,there]
    simp
  · rw [if_pos here,if_neg there,here]
    exact ⟨fun empty => absurd empty.symm (List.cons_ne_nil _ _),fun same => absurd same.symm there⟩
  · rw [if_neg here,if_pos there,there]
    exact ⟨fun empty => absurd empty (List.cons_ne_nil _ _),fun same => absurd same here⟩
  · rw [if_neg here,if_neg there,List.singleton_inj]

theorem slash_not_mem_replaceChar {name : String} (single : '/' ∉ name.toList) :
    '/' ∉ (Text.replaceChar ':' '_' name).toList := by
  simp only [Text.replaceChar,String.toList_ofList,List.mem_map,not_exists,not_and]
  intro c member
  split
  · decide
  · rintro rfl
    exact single member

theorem replaceChar_ne_empty {name : String} (filled : name ≠ "") : Text.replaceChar ':' '_' name ≠ "" := by
  intro empty
  have none : name.toList.map (fun c => if c = ':' then '_' else c) = [] := String.ofList_eq_empty_iff.mp empty
  exact filled (String.toList_eq_nil_iff.mp (List.map_eq_nil_iff.mp none))

/-- Rows that set no mount point have the same one exactly if the names of their targets are alike, whatever their
portals and their units. So different names without underscores have different mount points, which also are
different paths if no name has a slash in it. -/
theorem default_points_tell_targets_apart {a b : StorageSpec} {iqn portal iqn' portal' : String}
    (target : a.target = .ok (iqn,portal)) (target' : b.target = .ok (iqn',portal')) (unset : Blank a.mountPoint)
    (unset' : Blank b.mountPoint) : ∃ p q, a.mountPoint? = some p ∧ b.mountPoint? = some q ∧
      (p = q ↔ Alike iqn iqn') ∧
      ('_' ∉ iqn.toList → '_' ∉ iqn'.toList → (p = q ↔ iqn = iqn')) ∧
      ('/' ∉ iqn.toList → '/' ∉ iqn'.toList → (samePath p q ↔ p = q)) := by
  have filled : iqn ≠ "" := filled_of_target target
  have filled' : iqn' ≠ "" := filled_of_target target'
  have points : "/mnt/" ++ Text.replaceChar ':' '_' iqn = "/mnt/" ++ Text.replaceChar ':' '_' iqn' ↔
      Text.replaceChar ':' '_' iqn = Text.replaceChar ':' '_' iqn' := String.append_right_inj _
  refine ⟨_,_,mountPoint?_of_unset target unset,mountPoint?_of_unset target' unset',?_,?_,?_⟩
  · rw [points,replaceChar_eq_iff]
  · intro plain plain'
    rw [points,replaceChar_eq_iff,alike_iff_eq plain plain']
  · intro single single'
    rw [points]
    exact samePath_default_iff (slash_not_mem_replaceChar single) (slash_not_mem_replaceChar single')
      (replaceChar_ne_empty filled) (replaceChar_ne_empty filled')

/-- A unit of a target at the usual portal. -/
def unitOf (iqn : String) (lun : UInt32) : StorageSpec where
  targetIqn := some iqn
  portalIp := some "10.0.0.20"
  lun := some lun

theorem disks_have_their_own_points :
    (unitOf "iqn.lab:disk1" 0).target = .ok ("iqn.lab:disk1","10.0.0.20") ∧
    (unitOf "iqn.lab:disk2" 0).target = .ok ("iqn.lab:disk2","10.0.0.20") ∧
    ∃ p q, (unitOf "iqn.lab:disk1" 0).mountPoint? = some p ∧ (unitOf "iqn.lab:disk2" 0).mountPoint? = some q ∧
      samePath p q = false := by
  have target : (unitOf "iqn.lab:disk1" 0).target = .ok ("iqn.lab:disk1","10.0.0.20") := by decide +kernel
  have target' : (unitOf "iqn.lab:disk2" 0).target = .ok ("iqn.lab:disk2","10.0.0.20") := by decide +kernel
  obtain ⟨p,q,here,there,-,different,apart⟩ :=
    default_points_tell_targets_apart target target' (by simp [Blank,unitOf]) (by simp [Blank,unitOf])
  refine ⟨target,target',p,q,here,there,Bool.eq_false_iff.mpr fun same => ?_⟩
  have names := (different (by decide) (by decide)).mp ((apart (by decide) (by decide)).mp same)
  exact absurd names (by decide)

theorem units_share_a_point :
    let first := unitOf "iqn.lab:disk1" 0
    let second := unitOf "iqn.lab:disk1" 1
    let alike := unitOf "iqn.lab_disk1" 0
    let device (spec : StorageSpec) (iqn : String) :=
      Storage.devicePath "/dev/disk/by-path" "10.0.0.20" iqn spec.lunOrDefault.toNat
    first.target = .ok ("iqn.lab:disk1","10.0.0.20") ∧ second.target = .ok ("iqn.lab:disk1","10.0.0.20") ∧
    alike.target = .ok ("iqn.lab_disk1","10.0.0.20") ∧
    Blank first.mountPoint ∧ Blank second.mountPoint ∧ Blank alike.mountPoint ∧
    device first "iqn.lab:disk1" ≠ device second "iqn.lab:disk1" ∧ first.mountPoint? = second.mountPoint? ∧
    device first "iqn.lab:disk1" ≠ device alike "iqn.lab_disk1" ∧ first.mountPoint? = alike.mountPoint? := by
  have unset (iqn : String) (lun : UInt32) : Blank (unitOf iqn lun).mountPoint := by simp [Blank,unitOf]
  refine ⟨?_,?_,?_,unset _ _,unset _ _,unset _ _,?_,?_,?_,?_⟩ <;> decide +kernel

end Hostkeeper.StorageSpec
