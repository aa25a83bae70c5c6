import Hostkeeper.Host.Files

/-! Paths of one name. Such a path leads to what stands under the name in the root directory, and making a directory
that is there already changes nothing. -/
namespace Hostkeeper

/-- A path of one name from the root, with or without a slash after it. -/
structure Rooted (path name : String) (slash : Bool) : Prop where
  free : path.contains '\x00' = false
  path_le : path.utf8ByteSize ≤ pathLimit
  root : Text.startsWith path "/" = true
  steps : pathSteps path = name :: if slash then [""] else []
  plain : name ≠ "" ∧ name ≠ "." ∧ name ≠ ".."
  name_le : name.utf8ByteSize ≤ nameLimit

namespace FileTree

variable {files : FileTree} {path name : String} {slash : Bool} {node : FileNode}

theorem walk_name (plain : name ≠ "" ∧ name ≠ "." ∧ name ≠ "..") (short : name.utf8ByteSize ≤ nameLimit)
    (unlinked : ∀ target, files.node? [name] ≠ some (.link target)) (follow : Bool → Bool) (links : Nat) :
    files.walk follow links [] (name :: if slash then [""] else []) = .ok (.entry [] name slash) := by
  have long : ¬name.utf8ByteSize > nameLimit := Nat.not_lt.mpr short
  obtain ⟨filled,here,up⟩ := plain
  rw [walk.eq_def]
  cases found : files.node? [name] with
  | none => cases slash <;> simp [found,filled,here,up,long]
  | some node =>
    cases node with
    | link target => exact absurd found (unlinked target)
    | dir | file | device => cases slash <;> simp [found,filled,here,up,long]

theorem filled_of_rooted (rooted : Rooted path name slash) : path.isEmpty = false := by
  refine Bool.eq_false_iff.mpr fun empty => ?_
  have root := rooted.root
  rw [String.isEmpty_iff.mp empty] at root
  exact absurd root (by decide)

theorem goal_of_rooted (rooted : Rooted path name slash) (unlinked : ∀ target, files.node? [name] ≠ some (.link target))
    (follow : Bool → Bool) : files.goal follow path = .ok (.entry [] name slash) := by
  have long : ¬path.utf8ByteSize > pathLimit := Nat.not_lt.mpr rooted.path_le
  rw [goal,rooted.free,filled_of_rooted rooted,if_neg long,rooted.root,rooted.steps]
  exact walk_name rooted.plain rooted.name_le unlinked follow 40

theorem look_of_rooted_dir (rooted : Rooted path name slash) (found : files.node? [name] = some .dir) :
    files.look path = .ok ([name],.dir) := by
  have unlinked : ∀ target, files.node? [name] ≠ some (.link target) := by simp [found]
  have goal := goal_of_rooted rooted unlinked fun _ => true
  simp [look,goal,Goal.location,found,bind,Except.bind,pure,Except.pure]

theorem look_of_rooted_absent (rooted : Rooted path name false) (absent : files.node? [name] = none) :
    files.look path = .error .notFound := by
  have unlinked : ∀ target, files.node? [name] ≠ some (.link target) := by simp [absent]
  have goal := goal_of_rooted rooted unlinked fun _ => true
  simp [look,goal,Goal.location,absent,bind,Except.bind]

theorem readText_of_rooted {bytes : List UInt8} {executable : Bool} (rooted : Rooted path name false)
    (found : files.node? [name] = some (.file bytes executable)) :
    (files.readText path).toOption = Text.Utf8.decode? bytes := by
  have unlinked : ∀ target, files.node? [name] ≠ some (.link target) := by simp [found]
  have goal := goal_of_rooted rooted unlinked fun _ => true
  have look : files.look path = .ok ([name],.file bytes executable) := by
    simp [look,goal,Goal.location,found,bind,Except.bind,pure,Except.pure]
  simp only [readText,readBytes,look,bind,Except.bind,pure,Except.pure]
  cases Text.Utf8.decode? bytes <;> rfl

theorem contains_of_rooted (rooted : Rooted path name false) (found : files.node? [name] = some node)
    (unlinked : ∀ target, node ≠ .link target) : files.contains path = true := by
  have unlinked : ∀ target, files.node? [name] ≠ some (.link target) := by simpa [found] using unlinked
  have goal := goal_of_rooted rooted unlinked fun _ => true
  simp [contains,look,goal,Goal.location,found,bind,Except.bind,pure,Except.pure,Except.isOk,Except.toBool]

theorem contains_of_rooted_absent (rooted : Rooted path name false) (absent : files.node? [name] = none) :
    files.contains path = false := by
  rw [contains,look_of_rooted_absent rooted absent]
  rfl

theorem canonicalize_of_rooted_dir (rooted : Rooted path name slash) (found : files.node? [name] = some .dir) :
    files.canonicalize path = .ok ("/" ++ name) := by
  rw [canonicalize,look_of_rooted_dir rooted found]
  rfl

theorem makeDir_of_rooted (rooted : Rooted path name slash) (found : files.node? [name] = some .dir) :
    files.makeDir path = .error .exists := by
  have unlinked : ∀ target, files.node? [name] ≠ some (.link target) := by simp [found]
  have goal := goal_of_rooted rooted unlinked fun _ => false
  simp [makeDir,goal,found,bind,Except.bind]

theorem isDir_of_rooted_absent (rooted : Rooted path name false) (absent : files.node? [name] = none) :
    files.isDir path = false := by
  rw [isDir,look_of_rooted_absent rooted absent]

theorem createDirAll_of_rooted_absent (rooted : Rooted path name slash) (absent : files.node? [name] = none) :
    files.createDirAll path = (.ok (),files.put [name] .dir) := by
  have unlinked : ∀ target, files.node? [name] ≠ some (.link target) := by simp [absent]
  have goal := goal_of_rooted rooted unlinked fun _ => false
  have ensured : files.ensureDir path = (.ok (),files.put [name] .dir) := by
    simp [ensureDir,makeDir,goal,absent,bind,Except.bind,pure,Except.pure]
  rw [createDirAll,makeDirs,ensured,if_neg (by simp [filled_of_rooted rooted])]

theorem createDirAll_of_rooted (rooted : Rooted path name slash) (found : files.node? [name] = some .dir) :
    files.createDirAll path = (.ok (),files) := by
  have ensured : files.ensureDir path = (.ok (),files) := by
    simp [ensureDir,makeDir_of_rooted rooted found,isDir,look_of_rooted_dir rooted found]
  rw [createDirAll,makeDirs,ensured]
  split <;> rfl

end FileTree

end Hostkeeper
