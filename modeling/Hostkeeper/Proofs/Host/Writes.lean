import Hostkeeper.Host.Files
import Hostkeeper.Proofs.Text.Utf8

/-! Writing a file and reading it back. A path that leads to a file, or to a place for one, still leads there when the
file is written. -/
namespace Hostkeeper

/-- A file or nothing. -/
def FileNode.Plain : Option FileNode → Prop
  | none => True
  | some (.file ..) => True
  | some _ => False

namespace FileTree

variable {files after : FileTree} {path : String} {parent : Location} {name : String} {slash : Bool}

/-- The same ways lead through both trees: every directory of the first one stands, and the links are the same. -/
structure Frame (files after : FileTree) : Prop where
  home : after.home = files.home
  dirs : ∀ l, files.node? l = some .dir → after.node? l = some .dir
  links : ∀ l target, after.node? l = some (.link target) ↔ files.node? l = some (.link target)

theorem Frame.refl (files : FileTree) : Frame files files := ⟨rfl,fun _ => id,fun _ _ => .rfl⟩

/-- A walk that ends at a name goes through directories and links only. It ends at no link unless it does not follow
that one, so a walk that follows more ends there as well. -/
theorem Frame.walk (frame : Frame files after) {follow follow' : Bool → Bool}
    (follows : ∀ slash, follow slash = true → follow' slash = true)
    (ended : follow slash = false → ∀ target, files.node? (parent ++ [name]) ≠ some (.link target))
    {links : Nat} {here : Location} {steps : List String}
    (walked : files.walk follow links here steps = .ok (.entry parent name slash)) :
    after.walk follow' links here steps = .ok (.entry parent name slash) := by
  fun_induction FileTree.walk files follow links here steps with
  | case1 | case4 | case6 => cases walked
  | case2 links here step rest skipped ih =>
    rw [FileTree.walk,if_pos skipped]
    exact ih walked
  | case3 links here rest unskipped ih =>
    rw [FileTree.walk,if_neg unskipped,if_pos rfl]
    exact ih walked
  | case5 links here step rest unskipped down short last target found unfollowed =>
    cases walked
    exact absurd found (ended (by simp_all) target)
  | case7 here step rest unskipped down short last target found unslashed links ih =>
    have followed : ¬(last && !follow' !rest.isEmpty) = true := by
      have more := follows !rest.isEmpty
      grind
    rw [FileTree.walk,if_neg unskipped,if_neg down,if_neg short,(frame.links _ _).mpr found]
    dsimp only
    rw [if_neg followed]
    exact ih walked
  | case8 links here step rest unskipped down short last ended unlinked =>
    rw [FileTree.walk,if_neg unskipped,if_neg down,if_neg short]
    split
    next target linked => exact absurd ((frame.links _ _).mp linked) (unlinked target)
    next => rwa [if_pos ended]
  | case9 => cases walked
  | case10 links here step rest unskipped down short last more unlinked found ih =>
    rw [FileTree.walk,if_neg unskipped,if_neg down,if_neg short,frame.dirs _ found]
    dsimp only
    rw [if_neg more]
    exact ih walked
  | case11 => cases walked

theorem Frame.goal (frame : Frame files after) {follow follow' : Bool → Bool}
    (follows : ∀ slash, follow slash = true → follow' slash = true)
    (ended : follow slash = false → ∀ target, files.node? (parent ++ [name]) ≠ some (.link target))
    (leads : files.goal follow path = .ok (.entry parent name slash)) :
    after.goal follow' path = .ok (.entry parent name slash) := by
  unfold FileTree.goal at leads ⊢
  split at leads
  · cases leads
  next free =>
    rw [if_neg free]
    split at leads
    · cases leads
    next filled =>
      rw [if_neg filled]
      split at leads
      · cases leads
      next short =>
        rw [if_neg short,frame.home]
        exact frame.walk follows ended leads

theorem Frame.goal_of_write (frame : Frame files after) {follow : Bool → Bool} (follows : follow false = true)
    (leads : files.goal (!·) path = .ok (.entry parent name false)) :
    after.goal follow path = .ok (.entry parent name false) := by
  refine frame.goal (fun slash unslashed => ?_) (fun impossible => by cases impossible) leads
  cases slash with
  | false => exact follows
  | true => cases unslashed

theorem node?_put (l l' : Location) (node : FileNode) : (files.put l node).node? l' =
    if l'.isEmpty then some .dir else if Location.path l' = Location.path l then some node else files.node? l' := by
  unfold node? put
  split
  · rfl
  · rw [KeyMap.get?_insert]

theorem node?_put_self (parent : Location) (name : String) (node : FileNode) :
    (files.put (parent ++ [name]) node).node? (parent ++ [name]) = some node := by
  rw [node?_put,if_neg (by simp),if_pos rfl]

/-- A node is put at a place and stands at no other one. -/
theorem node?_put_cases (l l' : Location) (node : FileNode) : (files.put l node).node? l' = files.node? l' ∨
    l'.isEmpty = false ∧ files.node? l' = files.nodes.get? (Location.path l) ∧
      (files.put l node).node? l' = some node := by
  rw [node?_put,node?]
  by_cases root : l'.isEmpty = true
  · simp [root]
  · by_cases same : Location.path l' = Location.path l <;> simp [root,same]

theorem frame_put {l : Location} (before : FileNode.Plain (files.node? l)) (node : FileNode)
    (plain : FileNode.Plain (some node)) : Frame files (files.put l node) := by
  have inside : l.isEmpty = false := by
    refine Bool.eq_false_iff.mpr fun top => ?_
    rw [node?,if_pos top] at before
    cases before
  rw [node?,if_neg (by simp [inside])] at before
  refine ⟨rfl,fun l' found => ?_,fun l' target => ?_⟩
  · rcases node?_put_cases l l' node with same | ⟨-,held,-⟩
    · rw [same,found]
    · rw [← held,found] at before
      cases before
  · rcases node?_put_cases l l' node with same | ⟨-,held,put⟩
    · rw [same]
    · rw [← held] at before
      rw [put]
      constructor <;> intro linked
      · rw [linked] at plain
        cases plain
      · rw [linked] at before
        cases before

/-- The path leads, over any links, to a file with these bytes, or to a place in a directory where nothing is. -/
inductive Holds (files : FileTree) (path : String) : Option (List UInt8) → Prop
  | missing {parent : Location} {name : String} (leads : files.goal (!·) path = .ok (.entry parent name false))
      (found : files.node? (parent ++ [name]) = none) : Holds files path none
  | file {parent : Location} {name : String} {bytes : List UInt8} {executable : Bool}
      (leads : files.goal (!·) path = .ok (.entry parent name false))
      (found : files.node? (parent ++ [name]) = some (.file bytes executable)) : Holds files path (some bytes)

theorem Holds.unique {one other : Option (List UInt8)} (holds : Holds files path one) (also : Holds files path other) :
    one = other := by
  cases holds with
  | missing leads found =>
    cases also with
    | missing => rfl
    | file leads' found' =>
      cases leads.symm.trans leads'
      cases found.symm.trans found'
  | file leads found =>
    cases also with
    | missing leads' found' =>
      cases leads.symm.trans leads'
      cases found.symm.trans found'
    | file leads' found' =>
      cases leads.symm.trans leads'
      cases found.symm.trans found'
      rfl

theorem readBytes_of_missing (missing : Holds files path none) : files.readBytes path = .error .notFound := by
  cases missing with
  | @missing parent name leads found =>
    have goal : files.goal (fun _ => true) path = _ := (Frame.refl files).goal_of_write rfl leads
    simp [readBytes,look,goal,Goal.location,found,bind,Except.bind]

theorem readBytes_of_file {bytes : List UInt8} (held : Holds files path (some bytes)) :
    files.readBytes path = .ok bytes := by
  cases held with
  | @file parent name _ _ leads found =>
    have goal : files.goal (fun _ => true) path = _ := (Frame.refl files).goal_of_write rfl leads
    simp [readBytes,look,goal,Goal.location,found,bind,Except.bind,pure,Except.pure]

theorem holds_put (leads : files.goal (!·) path = .ok (.entry parent name false))
    (plain : FileNode.Plain (files.node? (parent ++ [name]))) (bytes : List UInt8) (executable : Bool) :
    Holds (files.put (parent ++ [name]) (.file bytes executable)) path (some bytes) := by
  have frame := frame_put plain (.file bytes executable) trivial
  exact .file (frame.goal_of_write rfl leads) (node?_put_self parent name _)

/-- A file is written whole, and it is there then. -/
theorem Holds.write {held : Option (List UInt8)} (holds : Holds files path held) (bytes : List UInt8) :
    ∃ after, files.write path bytes = .ok after ∧ Holds after path (some bytes) := by
  cases holds with
  | missing leads found =>
    refine ⟨_,?_,holds_put leads (by rw [found]; trivial) bytes false⟩
    simp only [FileTree.write,leads,found,bind,Except.bind,pure,Except.pure]
    rfl
  | @file _ _ _ executable leads found =>
    refine ⟨_,?_,holds_put leads (by rw [found]; trivial) bytes executable⟩
    simp only [FileTree.write,leads,found,bind,Except.bind,pure,Except.pure]
    rfl

end FileTree

end Hostkeeper
