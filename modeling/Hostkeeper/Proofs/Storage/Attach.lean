import Hostkeeper.Proofs.Host.Directories
import Hostkeeper.Proofs.Storage.Mounts
import Hostkeeper.Proofs.Storage.Points
import Mathlib.Data.Nat.Find
import Mathlib.Logic.Function.Iterate

/-! The course of one attach, from the login to the mount. The device is looked for at even pauses, with none after
the last look; nothing is made on the host before it is there, and nothing is mounted before the mount table has
been asked. What the login answers does not matter. -/
namespace Hostkeeper

namespace Storage

section Looking

variable (s : Storage) (iqn portal : String) (h : Host)

/-- How often a device is looked for. -/
def looks : Nat := max s.attempts 1

/-- The host at each look for the device, the first one at the login. -/
def atLook (k : Nat) : Host := (Host.sleep s.pollInterval)^[k] (s.login iqn portal h)

theorem calls_atLook (k : Nat) : (s.atLook iqn portal h k).calls = h.calls ++ [iscsiLogin iqn portal] := by
  induction k with
  | zero => rfl
  | succ k ih =>
    rw [atLook,Function.iterate_succ_apply']
    exact ih

theorem now_atLook (k : Nat) : (s.atLook iqn portal h k).now = h.now + k * s.pollInterval := by
  induction k with
  | zero => simp [atLook,login,Host.run]
  | succ k ih =>
    have later : (s.atLook iqn portal h (k + 1)).now = (s.atLook iqn portal h k).now + s.pollInterval := by
      rw [atLook,Function.iterate_succ_apply']
      rfl
    rw [later,ih,Nat.succ_mul,Nat.add_assoc]

theorem files_atLook (still : h.arriving = []) (idle : (s.tools h.calls (iscsiLogin iqn portal)).creates = [])
    (k : Nat) : (s.atLook iqn portal h k).files = h.files := by
  have both : (s.atLook iqn portal h k).files = h.files ∧ (s.atLook iqn portal h k).arriving = [] := by
    induction k with
    | zero =>
      rw [iscsiLogin] at idle
      simp [atLook,login,Host.run,idle,still]
    | succ k ih =>
      rw [atLook,Function.iterate_succ_apply']
      rw [atLook] at ih
      simp [Host.sleep,Host.settle,ih]
  exact both.1

/-- A path is there at the look `k` and was not at any look before. -/
structure FirstSeen (path : String) (k : Nat) : Prop where
  within : k < s.looks
  there : (s.atLook iqn portal h k).files.contains path = true
  before : ∀ j < k, (s.atLook iqn portal h j).files.contains path = false

theorem seen_or_absent (path : String) : (∃ k, s.FirstSeen iqn portal h path k) ∨
    ∀ k < s.looks, (s.atLook iqn portal h k).files.contains path = false := by
  by_cases found : ∃ k, k < s.looks ∧ (s.atLook iqn portal h k).files.contains path = true
  · obtain ⟨within,there⟩ := Nat.find_spec found
    refine .inl ⟨Nat.find found,within,there,fun j early => Bool.eq_false_iff.mpr fun present => ?_⟩
    exact Nat.find_min found early ⟨early.trans within,present⟩
  · refine .inr fun k within => Bool.eq_false_iff.mpr fun present => found ⟨k,within,present⟩

end Looking

section Waiting

variable {interval : Nat} {path : String} {h : Host}

theorem waitFor_found {more k : Nat} (within : k ≤ more)
    (there : ((Host.sleep interval)^[k] h).files.contains path = true)
    (before : ∀ j < k, ((Host.sleep interval)^[j] h).files.contains path = false) :
    waitFor interval path more h = (true,(Host.sleep interval)^[k] h) := by
  induction k generalizing more h with
  | zero =>
    have now : h.files.contains path = true := there
    cases more <;> simp [waitFor,now]
  | succ k ih =>
    obtain ⟨more,rfl⟩ : ∃ rest, more = rest + 1 := ⟨more - 1,by omega⟩
    have notYet : h.files.contains path = false := before 0 (Nat.succ_pos k)
    rw [Function.iterate_succ_apply] at there ⊢
    rw [waitFor,notYet]
    refine ih (by omega) there fun j early => ?_
    rw [← Function.iterate_succ_apply]
    exact before (j + 1) (by omega)

theorem waitFor_absent {more : Nat}
    (never : ∀ j ≤ more, ((Host.sleep interval)^[j] h).files.contains path = false) :
    waitFor interval path more h = (false,(Host.sleep interval)^[more] h) := by
  induction more generalizing h with
  | zero =>
    have now : h.files.contains path = false := never 0 (Nat.le_refl 0)
    simp [waitFor,now]
  | succ more ih =>
    have notYet : h.files.contains path = false := never 0 (Nat.zero_le _)
    rw [waitFor,notYet,Function.iterate_succ_apply]
    refine ih fun j within => ?_
    rw [← Function.iterate_succ_apply]
    exact never (j + 1) (by omega)

end Waiting

/-- The mount table could be read and has a line that is the path, but for blanks around it. -/
def Lists (answer : Output) (point : String) : Prop :=
  answer.code = some 0 ∧ ∃ line ∈ Text.lines answer.text, Text.trim line = point

theorem lists_iff (answer : Output) {point : String} (filled : point ≠ "") :
    (answer.success && answer.lines.contains point) = true ↔ Lists answer point := by
  have lines : point ∈ answer.lines ↔ ∃ line ∈ Text.lines answer.text, Text.trim line = point := by
    rw [Output.lines,Text.mem_filledLines_iff]
    exact and_iff_right filled
  rw [Lists,← lines]
  simp [Output.success]

theorem isMounted_eq (s : Storage) (device point : String) (h : Host) : s.isMounted device point h =
    ((h.run s.tools (findmnt device)).1.success && (h.run s.tools (findmnt device)).1.lines.contains point,
      (h.run s.tools (findmnt device)).2) := rfl

/-- The ways to mount a device that is there, with the commands that are run. -/
inductive Mounting (s : Storage) (device point : String) (h : Host) :
    List Command → Except StorageError AttachOutcome × Host → Prop
  | listed {answer after} (asks : h.run s.tools (findmnt device) = (answer,after)) (lists : Lists answer point) :
      Mounting s device point h [findmnt device] (.ok .alreadyMounted,after)
  | mounted {answer asked reply after} (asks : h.run s.tools (findmnt device) = (answer,asked))
      (unlisted : ¬Lists answer point) (mounts : asked.run s.tools (mount device point) = (reply,after))
      (success : reply.code = some 0) :
      Mounting s device point h [findmnt device,mount device point] (.ok .mounted,after)
  | refused {answer asked reply after} (asks : h.run s.tools (findmnt device) = (answer,asked))
      (unlisted : ¬Lists answer point) (mounts : asked.run s.tools (mount device point) = (reply,after))
      (failure : reply.code ≠ some 0) :
      Mounting s device point h [findmnt device,mount device point]
        (.error (.mount ⟨(mount device point).text,(reply.code.map toString).getD "none",Text.trim reply.text⟩),after)

def deviceOf (s : Storage) (spec : StorageSpec) (iqn portal : String) : String :=
  devicePath s.byPathDir portal iqn spec.lunOrDefault.toNat

/-- The courses that an attach can take, with the commands that are run and the time that is spent. Once the device is
there the mount point is made: a directory stands at its path when the mount table is asked, and of the files that were
there none has changed. The place where that path leads, over any links in it, is mounted on. -/
inductive Course (s : Storage) (spec : StorageSpec) (h : Host) :
    List Command → Nat → Except StorageError AttachOutcome × Host → Prop
  | invalid {e} (blank : spec.target = .error e) : Course s spec h [] 0 (.error (.invalid e),h)
  | timeout {iqn portal} (target : spec.target = .ok (iqn,portal))
      (never : ∀ k < s.looks, (s.atLook iqn portal h k).files.contains (s.deviceOf spec iqn portal) = false) :
      Course s spec h [iscsiLogin iqn portal] ((s.looks - 1) * s.pollInterval)
        (.error (.deviceTimeout (s.deviceOf spec iqn portal) s.looks),s.atLook iqn portal h (s.looks - 1))
  | unmade {iqn portal k wanted e files} (target : spec.target = .ok (iqn,portal))
      (first : s.FirstSeen iqn portal h (s.deviceOf spec iqn portal) k) (directory : spec.mountPoint? = some wanted)
      (grown : FileTree.Grown (s.atLook iqn portal h k).files files)
      (fails : (s.atLook iqn portal h k).files.createDirAll wanted = (.error e,files) ∨
        (s.atLook iqn portal h k).files.createDirAll wanted = (.ok (),files) ∧ files.canonicalize wanted = .error e) :
      Course s spec h [iscsiLogin iqn portal] (k * s.pollInterval)
        (.error (.mountPoint wanted e),{s.atLook iqn portal h k with files})
  | ready {iqn portal k wanted point files run outcome} (target : spec.target = .ok (iqn,portal))
      (first : s.FirstSeen iqn portal h (s.deviceOf spec iqn portal) k) (directory : spec.mountPoint? = some wanted)
      (made : (s.atLook iqn portal h k).files.createDirAll wanted = (.ok (),files))
      (grown : FileTree.Grown (s.atLook iqn portal h k).files files) (there : files.isDir wanted = true)
      (resolved : files.canonicalize wanted = .ok point)
      (place : ∃ l, files.look wanted = .ok (l,.dir) ∧ point = Location.path l)
      (mounting : Mounting s (s.deviceOf spec iqn portal) point {s.atLook iqn portal h k with files} run outcome) :
      Course s spec h (iscsiLogin iqn portal :: run) (k * s.pollInterval) outcome

section Courses

variable {s : Storage} {spec : StorageSpec} {h : Host} {device point : String} {run : List Command} {waited : Nat}
  {outcome : Except StorageError AttachOutcome × Host}

theorem Mounting.total (s : Storage) (device point : String) (h : Host) :
    ∃ run outcome, Mounting s device point h run outcome := by
  rcases asks : h.run s.tools (findmnt device) with ⟨answer,asked⟩
  by_cases listed : Lists answer point
  · exact ⟨_,_,.listed asks listed⟩
  · rcases mounts : asked.run s.tools (mount device point) with ⟨reply,after⟩
    by_cases success : reply.code = some 0
    · exact ⟨_,_,.mounted asks listed mounts success⟩
    · exact ⟨_,_,.refused asks listed mounts success⟩

theorem Mounting.spent (mounting : Mounting s device point h run outcome) :
    outcome.2.calls = h.calls ++ run ∧ outcome.2.now = h.now := by
  cases mounting with
  | listed asks =>
    obtain ⟨-,rfl⟩ := Prod.mk.inj asks
    exact ⟨rfl,rfl⟩
  | mounted asks _ mounts | refused asks _ mounts =>
    obtain ⟨-,rfl⟩ := Prod.mk.inj asks
    obtain ⟨-,rfl⟩ := Prod.mk.inj mounts
    exact ⟨List.append_assoc ..,rfl⟩

theorem Mounting.ensureMounted_eq (filled : point ≠ "") (mounting : Mounting s device point h run outcome) :
    s.ensureMounted device point h = outcome := by
  have asked {answer after} (asks : h.run s.tools (findmnt device) = (answer,after)) :
      s.isMounted device point h = (answer.success && answer.lines.contains point,after) := by
    rw [isMounted_eq,asks]
  cases mounting with
  | listed asks lists =>
    rw [ensureMounted,asked asks,(lists_iff _ filled).mpr lists]
  | mounted asks unlisted mounts success =>
    have absent := Bool.eq_false_iff.mpr fun found => unlisted ((lists_iff _ filled).mp found)
    rw [ensureMounted,asked asks,absent]
    simp [Host.runChecked,mounts,Output.check,Output.success,success]
  | refused asks unlisted mounts failure =>
    have absent := Bool.eq_false_iff.mpr fun found => unlisted ((lists_iff _ filled).mp found)
    rw [ensureMounted,asked asks,absent]
    simp [Host.runChecked,mounts,Output.check,Output.success,failure]

theorem Course.total (s : Storage) (spec : StorageSpec) (h : Host) :
    ∃ run waited outcome, Course s spec h run waited outcome := by
  cases target : spec.target with
  | error e => exact ⟨_,_,_,.invalid target⟩
  | ok names =>
    obtain ⟨iqn,portal⟩ := names
    rcases s.seen_or_absent iqn portal h (s.deviceOf spec iqn portal) with ⟨k,first⟩ | never
    · obtain ⟨wanted,directory⟩ := StorageSpec.exists_mountPoint target
      have makes := FileTree.makes_createDirAll (s.atLook iqn portal h k).files wanted
      rcases making : (s.atLook iqn portal h k).files.createDirAll wanted with ⟨result,files⟩
      rw [making] at makes
      cases result with
      | error e => exact ⟨_,_,_,.unmade target first directory makes.grown (.inl making)⟩
      | ok =>
        cases resolved : files.canonicalize wanted with
        | error e => exact ⟨_,_,_,.unmade target first directory makes.grown (.inr ⟨making,resolved⟩)⟩
        | ok point =>
          have there := makes.there (StorageSpec.filled_of_mountPoint directory) rfl
          obtain ⟨run,outcome,mounting⟩ :=
            Mounting.total s (s.deviceOf spec iqn portal) point {s.atLook iqn portal h k with files}
          exact ⟨_,_,_,.ready target first directory making makes.grown there resolved
            (FileTree.exists_place_of_canonicalize there resolved) mounting⟩
    · exact ⟨_,_,_,.timeout target never⟩

theorem Course.spent (course : Course s spec h run waited outcome) :
    outcome.2.calls = h.calls ++ run ∧ outcome.2.now = h.now + waited := by
  cases course with
  | invalid => exact ⟨(List.append_nil _).symm,rfl⟩
  | timeout => exact ⟨s.calls_atLook ..,s.now_atLook ..⟩
  | unmade => exact ⟨s.calls_atLook ..,s.now_atLook ..⟩
  | @ready iqn portal k _ _ _ _ _ _ _ _ _ _ _ _ _ mounting =>
    obtain ⟨calls,now⟩ := mounting.spent
    rw [calls,now]
    refine ⟨?_,s.now_atLook ..⟩
    change (s.atLook iqn portal h k).calls ++ _ = _
    rw [calls_atLook,List.append_assoc]
    rfl

theorem FirstSeen.waitFor_eq {iqn portal path : String} {k : Nat} (first : s.FirstSeen iqn portal h path k) :
    waitFor s.pollInterval path (s.attempts - 1) (s.login iqn portal h) = (true,s.atLook iqn portal h k) := by
  have within := first.within
  rw [looks] at within
  exact waitFor_found (by omega) first.there first.before

theorem Course.attach_eq (course : Course s spec h run waited outcome) : s.attach spec h = outcome := by
  rw [Storage.attach_eq,located]
  cases course with
  | invalid blank => rw [blank]
  | @timeout iqn portal target never =>
    have last : s.looks - 1 = s.attempts - 1 := by
      rw [looks]
      omega
    have absent : waitFor s.pollInterval (s.deviceOf spec iqn portal) (s.attempts - 1) (s.login iqn portal h) =
        (false,s.atLook iqn portal h (s.looks - 1)) := by
      rw [last]
      refine waitFor_absent fun j within => never j ?_
      rw [looks]
      omega
    rw [deviceOf] at absent
    simp only [target,absent]
    rfl
  | unmade target first directory _ fails =>
    have found := first.waitFor_eq
    rw [deviceOf] at found
    rcases fails with fails | ⟨made,fails⟩
    · simp only [target,found,directory,Option.getD_some,prepare,fails]
    · simp only [target,found,directory,Option.getD_some,prepare,made,fails]
  | ready target first directory made _ _ resolved _ mounting =>
    have found := first.waitFor_eq
    rw [deviceOf] at found
    obtain ⟨names,rooted⟩ := absolute_of_canonicalize resolved
    subst rooted
    simp only [target,found,directory,Option.getD_some,prepare,made,resolved]
    exact mounting.ensureMounted_eq (by simp [← String.toList_inj])

end Courses

/-- Tools that differ at most in what they answer to logins. -/
def AgreeButOnLogins (one other : Tools) : Prop := ∀ h c, (other h c).creates = (one h c).creates ∧
  ((∀ iqn portal, c ≠ iscsiLogin iqn portal) → (other h c).output = (one h c).output)

section Logins

variable {s : Storage} {tools : Tools} (agree : AgreeButOnLogins s.tools tools)

include agree

theorem run_of_agree (h : Host) {c : Command} (other : ∀ iqn portal, c ≠ iscsiLogin iqn portal) :
    h.run tools c = h.run s.tools c := by
  obtain ⟨creates,output⟩ := agree h.calls c
  rw [Host.run,Host.run,creates,output other]

theorem login_of_agree (iqn portal : String) (h : Host) :
    ({s with tools} : Storage).login iqn portal h = s.login iqn portal h := by
  obtain ⟨creates,-⟩ := agree h.calls (iscsiLogin iqn portal)
  change ({h with calls := _, files := List.foldl _ _ (tools h.calls (iscsiLogin iqn portal)).creates} : Host) = _
  rw [creates]
  rfl

theorem located_of_agree (spec : StorageSpec) (h : Host) :
    ({s with tools} : Storage).located spec h = s.located spec h := by
  rw [located,located]
  cases spec.target with
  | error => rfl
  | ok names =>
    dsimp only
    rw [login_of_agree agree]

theorem ensureMounted_of_agree (device point : String) (h : Host) :
    ({s with tools} : Storage).ensureMounted device point h = s.ensureMounted device point h := by
  have asks (h : Host) : h.run tools (findmnt device) = h.run s.tools (findmnt device) :=
    run_of_agree agree h (by simp [findmnt,iscsiLogin])
  have mounts (h : Host) : h.run tools (mount device point) = h.run s.tools (mount device point) :=
    run_of_agree agree h (by simp [mount,iscsiLogin])
  have listing : ({s with tools} : Storage).isMounted device point h = s.isMounted device point h := by
    rw [isMounted_eq,isMounted_eq,asks]
  rw [ensureMounted,ensureMounted,listing]
  simp only [Host.runChecked,mounts]

end Logins

/-- Every attach takes one of the courses, and its row, its tools and its host tell which: it answers as the course
says, runs the commands of the course in their order, and ends as much later as the course takes. A row takes the
course of an invalid one exactly if its target or its portal is blank. What a login answers makes no difference. -/
theorem attach_takes_its_course (s : Storage) (spec : StorageSpec) (h : Host) :
    (∃ run waited, Course s spec h run waited (s.attach spec h)) ∧
    (∀ run waited outcome, Course s spec h run waited outcome → s.attach spec h = outcome ∧
      outcome.2.calls = h.calls ++ run ∧ outcome.2.now = h.now + waited) ∧
    (∀ iqn portal k, (s.atLook iqn portal h k).now = h.now + k * s.pollInterval) ∧
    ((∃ e, spec.target = .error e) ↔ StorageSpec.Blank spec.targetIqn ∨ StorageSpec.Blank spec.portalIp) ∧
    ∀ tools, AgreeButOnLogins s.tools tools → ({s with tools} : Storage).attach spec h = s.attach spec h := by
  refine ⟨?_,fun run waited outcome course => ⟨course.attach_eq,course.spent⟩,fun _ _ _ => s.now_atLook ..,
    spec.target_error_iff,fun tools agree => ?_⟩
  · obtain ⟨run,waited,outcome,course⟩ := Course.total s spec h
    exact ⟨run,waited,course.attach_eq ▸ course⟩
  · rw [attach_eq,attach_eq,located_of_agree agree]
    rcases s.located spec h with ⟨_ | ⟨device,point⟩,after⟩
    · rfl
    · exact ensureMounted_of_agree agree device point after

/-- Without the device nothing is made. With it the mount point is made, and mounted on. -/
theorem mount_point_is_made_for_a_device :
    let s : Storage := ⟨MountTable.tools [],"/",3,1000⟩
    let bare : Host := .new ⟨.ofList [],[]⟩
    let host : Host := .new ⟨.ofList [(shelfDevice,.file [] false)],[]⟩
    let late := s.attach (shelfSpec "/m") bare
    let done := s.attach (shelfSpec "/m") host
    late.1 = .error (.deviceTimeout shelfDevice 3) ∧ late.2.calls = [iscsiLogin "t" "a:1"] ∧ late.2.now = 2000 ∧
    late.2.files = bare.files ∧ host.files.isDir "/m" = false ∧ done.1 = .ok .mounted ∧
    done.2.files.isDir "/m" = true ∧ done.2.now = 0 ∧
    done.2.calls = [iscsiLogin "t" "a:1",findmnt shelfDevice,mount shelfDevice "/m"] := by
  intro s bare host late done
  have target : (shelfSpec "/m").target = .ok ("t","a:1") := rfl
  have device : s.deviceOf (shelfSpec "/m") "t" "a:1" = shelfDevice := by decide +kernel
  have waits := s.files_atLook "t" "a:1" bare rfl rfl
  have never :
      ∀ k < s.looks, (s.atLook "t" "a:1" bare k).files.contains (s.deviceOf (shelfSpec "/m") "t" "a:1") = false := by
    intro k _
    rw [device,waits k]
    exact FileTree.contains_of_rooted_absent rooted_shelfDevice rfl
  obtain ⟨timeout,ran,took⟩ := (attach_takes_its_course s (shelfSpec "/m") bare).2.1 _ _ _ (.timeout target never)
  have rooted : Rooted "/m" "m" false :=
    ⟨by simp,by decide +kernel,by decide +kernel,by decide +kernel,by decide +kernel,by decide +kernel⟩
  have absent : host.files.node? ["m"] = none := by decide +kernel
  have first : s.FirstSeen "t" "a:1" host (s.deviceOf (shelfSpec "/m") "t" "a:1") 0 := by
    have node : host.files.node? ["ip-a:1-iscsi-t-lun-0"] = some (.file [] false) := by decide +kernel
    refine ⟨by decide,?_,nofun⟩
    rw [device]
    exact FileTree.contains_of_rooted rooted_shelfDevice node (by simp)
  have made := FileTree.createDirAll_of_rooted_absent rooted absent
  have makes := FileTree.makes_createDirAll host.files "/m"
  rw [made] at makes
  have there := makes.there (by decide) rfl
  have resolved : (host.files.put ["m"] .dir).canonicalize "/m" = .ok "/m" :=
    FileTree.canonicalize_of_rooted_dir rooted (FileTree.node?_put_self [] "m" .dir)
  let ready : Host := {s.atLook "t" "a:1" host 0 with files := host.files.put ["m"] .dir}
  let answered := (ready.run s.tools (findmnt shelfDevice)).2
  have unlisted : ¬Lists (ready.run s.tools (findmnt shelfDevice)).1 "/m" := fun listed =>
    absurd ((lists_iff _ (by decide)).mpr listed) (by decide +kernel)
  have mounting : Mounting s shelfDevice "/m" ready [findmnt shelfDevice,mount shelfDevice "/m"]
      (.ok .mounted,(answered.run s.tools (mount shelfDevice "/m")).2) := .mounted rfl unlisted rfl (by decide +kernel)
  rw [← device] at mounting
  obtain ⟨mounted,also,passed⟩ := (attach_takes_its_course s (shelfSpec "/m") host).2.1 _ _ _
    (.ready target first (by decide +kernel) made makes.grown there resolved
      (FileTree.exists_place_of_canonicalize there resolved) mounting)
  rw [device] at timeout mounted also
  refine ⟨congrArg Prod.fst timeout,?_,?_,?_,FileTree.isDir_of_rooted_absent rooted absent,congrArg Prod.fst mounted,
    ?_,?_,?_⟩
  · exact (congrArg (·.2.calls) timeout).trans ran
  · have later : bare.now + (s.looks - 1) * s.pollInterval = 2000 := by decide +kernel
    exact (congrArg (·.2.now) timeout).trans (took.trans later)
  · exact (congrArg (·.2.files) timeout).trans (waits 2)
  · exact (congrArg (·.2.files.isDir "/m") mounted).trans there
  · exact (congrArg (·.2.now) mounted).trans passed
  · exact (congrArg (·.2.calls) mounted).trans also

end Storage

end Hostkeeper
