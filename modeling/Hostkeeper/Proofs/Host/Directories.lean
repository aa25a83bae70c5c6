import Hostkeeper.Proofs.Host.Writes

/-! Making directories. A directory that is made is there, over any links in its path, and so are those above it;
nothing that was there before is lost or changed, also where the making fails halfway. -/
namespace Hostkeeper.FileTree

variable {files middle after : FileTree} {path : String}

/-- The second tree has all that is in the first one, and some directories besides. -/
structure Grown (files after : FileTree) : Prop where
  home : after.home = files.home
  kept : ∀ l node, files.node? l = some node → after.node? l = some node
  added : ∀ l node, files.node? l = none → after.node? l = some node → node = .dir

theorem Grown.refl (files : FileTree) : Grown files files :=
  ⟨rfl,fun _ _ => id,fun _ _ absent found => nomatch absent.symm.trans found⟩

theorem Grown.trans (first : Grown files middle) (second : Grown middle after) : Grown files after := by
  refine ⟨second.home.trans first.home,fun l node found => second.kept l node (first.kept l node found),?_⟩
  intro l node absent found
  cases between : middle.node? l with
  | none => exact second.added l node between found
  | some other =>
    obtain rfl := Option.some.inj (found.symm.trans (second.kept l other between))
    exact first.added l node absent between

theorem Grown.frame (grown : Grown files after) : Frame files after := by
  refine ⟨grown.home,fun l => grown.kept l .dir,fun l target => ⟨fun linked => ?_,grown.kept l _⟩⟩
  cases held : files.node? l with
  | none => exact nomatch grown.added l _ held linked
  | some node => rw [← linked,grown.kept l node held]

theorem grown_put {l : Location} (absent : files.node? l = none) : Grown files (files.put l .dir) := by
  have missing : files.nodes.get? (Location.path l) = none := by
    unfold node? at absent
    split at absent
    · cases absent
    · exact absent
  refine ⟨rfl,fun l' node found => ?_,fun l' node lacks found => ?_⟩
  · rcases node?_put_cases l l' .dir with same | ⟨-,held,-⟩
    · rw [same,found]
    · rw [held,missing] at found
      cases found
  · rcases node?_put_cases l l' .dir with same | ⟨-,-,put⟩
    · rw [same,lacks] at found
      cases found
    · exact (Option.some.inj (put.symm.trans found)).symm

theorem makeDir_spec (made : files.makeDir path = .ok after) : Grown files after ∧ after.isDir path = true := by
  unfold makeDir at made
  cases leads : files.goal (fun _ => false) path with
  | error e => simp [leads,bind,Except.bind] at made
  | ok goal =>
    cases goal with
    | dir l => simp [leads,bind,Except.bind] at made
    | entry parent name slash =>
      cases absent : files.node? (parent ++ [name]) with
      | some node => simp [leads,absent,bind,Except.bind] at made
      | none =>
        obtain rfl : files.put (parent ++ [name]) .dir = after := by
          simpa [leads,absent,bind,Except.bind,pure,Except.pure] using made
        have grown := grown_put absent
        -- The way to the new directory goes through old ones, and it is no link itself.
        have goal : (files.put (parent ++ [name]) .dir).goal (fun _ => true) path = .ok (.entry parent name slash) :=
          grown.frame.goal (fun _ _ => rfl) (fun _ => by simp [absent]) leads
        refine ⟨grown,?_⟩
        simp [isDir,look,goal,Goal.location,node?_put_self,bind,Except.bind,pure,Except.pure]

/-- What comes of making a directory: the tree grows, and the directory is there unless that fails. -/
structure Makes (files : FileTree) (path : String) (result : Except OsError Unit × FileTree) : Prop where
  grown : Grown files result.2
  there : path ≠ "" → result.1 = .ok () → result.2.isDir path = true

theorem Makes.after_grown {result : Except OsError Unit × FileTree} (grown : Grown files middle)
    (makes : Makes middle path result) : Makes files path result :=
  ⟨grown.trans makes.grown,makes.there⟩

theorem makes_ensureDir (files : FileTree) (path : String) : Makes files path (files.ensureDir path) := by
  unfold ensureDir
  cases made : files.makeDir path with
  | ok after =>
    obtain ⟨grown,there⟩ := makeDir_spec made
    exact ⟨grown,fun _ _ => there⟩
  | error e =>
    refine ⟨.refl files,fun _ succeeds => Bool.of_not_eq_false fun absent => ?_⟩
    simp only [absent] at succeeds
    cases succeeds

theorem makes_makeDirs (files : FileTree) (depth : Nat) (path : String) :
    Makes files path (files.makeDirs depth path) := by
  induction depth generalizing files path with
  | zero => exact ⟨.refl files,fun _ never => nomatch never⟩
  | succ depth ih =>
    unfold makeDirs
    split
    next empty => exact ⟨.refl files,fun filled => absurd (String.isEmpty_iff.mp empty) filled⟩
    next =>
      have first := makes_ensureDir files path
      split
      next t missing =>
        rw [missing] at first
        split
        · exact ⟨first.grown,fun _ never => nomatch never⟩
        next parent _ =>
          have above := ih t parent
          split
          next e t' failed =>
            rw [failed] at above
            exact ⟨first.grown.trans above.grown,fun _ never => nomatch never⟩
          next t' made =>
            rw [made] at above
            exact .after_grown (first.grown.trans above.grown) (makes_ensureDir t' path)
      next => exact first

theorem makes_createDirAll (files : FileTree) (path : String) : Makes files path (files.createDirAll path) :=
  makes_makeDirs files _ path

theorem exists_place_of_canonicalize {point : String} (there : files.isDir path = true)
    (resolved : files.canonicalize path = .ok point) :
    ∃ place, files.look path = .ok (place,.dir) ∧ point = Location.path place := by
  unfold isDir at there
  split at there
  next place found =>
    simp only [canonicalize,found,bind,Except.bind,pure,Except.pure,Except.ok.injEq] at resolved
    exact ⟨place,found,resolved.symm⟩
  next => cases there

end Hostkeeper.FileTree
