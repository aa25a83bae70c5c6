import Hostkeeper.Proofs.Host.Files
import Hostkeeper.Proofs.Host.Histories
import Hostkeeper.Proofs.Text.Lines
import Hostkeeper.Storage

/-! The storage domain and the mount table that its own mounts fill. A mount is found again by its line in what
`findmnt` prints. The lines are trimmed when they are read and the resolved mount point is not, so a path that
ends in a blank, or that is more than one line, is not found and is mounted on again. -/
namespace Hostkeeper.Storage

def iscsiLogin (iqn portal : String) : Command := ⟨"iscsiadm",["-m","node","-T",iqn,"-p",portal,"--login"]⟩

def findmnt (device : String) : Command := ⟨"findmnt",["-n","-o","TARGET","--source",device]⟩

def mount (device point : String) : Command := ⟨"mount",[device,point]⟩

/-- Devices and the paths that they are mounted on. -/
abbrev MountTable := List (String × String)

def MountTable.targets (table : MountTable) (device : String) : List String :=
  (table.filter (·.1 = device)).map (·.2)

theorem MountTable.mem_targets {table : MountTable} {device point : String} :
    point ∈ table.targets device ↔ (device,point) ∈ table := by
  simp [targets]

/-- Tools whose mount table takes in what is mounted and is printed line by line. -/
structure Honest (tools : Tools) (table : List Command → MountTable) : Prop where
  prints (h : List Command) (device : String) :
    (tools h (findmnt device)).output.text = Text.ofLines ((table h).targets device)
  finds {h : List Command} {device : String} :
    (table h).targets device ≠ [] → (tools h (findmnt device)).output.success = true
  reads (h : List Command) (device : String) : table (h ++ [findmnt device]) = table h
  mounts {h : List Command} {device point : String} : (tools h (mount device point)).output.success = true →
    (device,point) ∈ table (h ++ [mount device point])
  keeps_mount {h : List Command} {pair : String × String} (device point : String) :
    pair ∈ table h → pair ∈ table (h ++ [mount device point])
  keeps_login {h : List Command} {pair : String × String} (iqn portal : String) :
    pair ∈ table h → pair ∈ table (h ++ [iscsiLogin iqn portal])

/-- What may be run in a pass: a mount is made where the table does not have it on a line of its own. -/
inductive Due (table : List Command → MountTable) (h : List Command) : Command → Prop
  | login (iqn portal : String) : Due table h (iscsiLogin iqn portal)
  | findmnt (device : String) : Due table h (findmnt device)
  | mount {device point : String} : (Text.IsLine point → (device,point) ∉ table h) → Due table h (mount device point)

section Tables

variable {tools : Tools} {table : List Command → MountTable} {h run : List Command} {device point : String}

theorem Due.missing (plain : Text.IsLine point) (due : Due table h (Storage.mount device point)) :
    (device,point) ∉ table h := by
  generalize same : Storage.mount device point = c at due
  cases due with
  | login => simp [Storage.mount,iscsiLogin] at same
  | findmnt => simp [Storage.mount,Storage.findmnt] at same
  | mount missing =>
    obtain ⟨rfl,rfl⟩ : device = _ ∧ point = _ := by simpa [Storage.mount] using same
    exact missing plain

namespace Honest

variable (honest : Honest tools table)

include honest

theorem keeps {c : Command} (due : Due table h c) {pair : String × String} (mounted : pair ∈ table h) :
    pair ∈ table (h ++ [c]) := by
  cases due with
  | login iqn portal => exact honest.keeps_login iqn portal mounted
  | findmnt device => exact honest.reads h device ▸ mounted
  | mount => exact honest.keeps_mount _ _ mounted

theorem stays (heeds : Heeds (Due table) h run) {pair : String × String} (mounted : pair ∈ table h) :
    pair ∈ table (h ++ run) :=
  heeds.keeps (fun h => pair ∈ table h) (fun _ _ due => honest.keeps due) mounted

theorem times_mount_le_one (plain : Text.IsLine point) (heeds : Heeds (Due table) h run) :
    times tools (mount device point) Output.success h run ≤ 1 :=
  times_le_one (fun h => (device,point) ∈ table h) (fun _ _ due => honest.keeps due)
    (fun _ due => due.missing plain) (fun _ _ => honest.mounts) heeds

/-- A mount point that is one line, and that trimming leaves as it is, is found by its line. -/
theorem listed (plain : Text.IsLine point) (mounted : (device,point) ∈ table h) :
    let answer := (tools h (findmnt device)).output
    (answer.success && answer.lines.contains point) = true := by
  have target := MountTable.mem_targets.mpr mounted
  have success := honest.finds (List.ne_nil_of_mem target)
  have line := Text.mem_filledLines_ofLines target plain
  rw [← honest.prints] at line
  simpa [success,Output.lines] using line

end Honest

end Tables

section Rows

variable (s : Storage)

def located (spec : StorageSpec) (h : Host) : Except StorageError (String × String) × Host :=
  match spec.target with
  | .error e => (.error (.invalid e),h)
  | .ok (iqn,portal) =>
    let device := devicePath s.byPathDir portal iqn spec.lunOrDefault.toNat
    let wanted := spec.mountPoint?.getD ""
    match waitFor s.pollInterval device (s.attempts - 1) (s.login iqn portal h) with
    | (false,h) => (.error (.deviceTimeout device (max s.attempts 1)),h)
    | (true,h) =>
      match prepare wanted h.files with
      | (.error e,files) => (.error (.mountPoint wanted e),{h with files})
      | (.ok point,files) => (.ok (device,point),{h with files})

/-- Mounts a device unless the mount table has it there. -/
def ensureMounted (device point : String) (h : Host) : Except StorageError AttachOutcome × Host :=
  match s.isMounted device point h with
  | (true,h) => (.ok .alreadyMounted,h)
  | (false,h) =>
    match h.runChecked s.tools (mount device point) with
    | (.ok _,h) => (.ok .mounted,h)
    | (.error e,h) => (.error (.mount e),h)

theorem attach_eq (spec : StorageSpec) (h : Host) : s.attach spec h =
    match s.located spec h with
    | (.error e,h) => (.error e,h)
    | (.ok (device,point),h) => s.ensureMounted device point h := by
  unfold attach located
  cases spec.target with
  | error => rfl
  | ok target =>
    dsimp only
    rcases waitFor _ _ _ _ with ⟨_ | _,after⟩
    · rfl
    · dsimp only
      rcases prepare _ after.files with ⟨_ | _,files⟩ <;> rfl

theorem calls_waitFor (interval : Nat) (path : String) (more : Nat) (h : Host) :
    (waitFor interval path more h).2.calls = h.calls := by
  induction more generalizing h with
  | zero => rfl
  | succ more ih =>
    rw [waitFor]
    split
    · rfl
    · exact ih (h.sleep interval)

theorem calls_located (spec : StorageSpec) (h : Host) : (s.located spec h).2.calls = h.calls ++
    (spec.target.toOption.toList.map fun target => iscsiLogin target.1 target.2) := by
  unfold located
  cases spec.target with
  | error => exact (List.append_nil _).symm
  | ok target =>
    have waited := calls_waitFor s.pollInterval (devicePath s.byPathDir target.2 target.1 spec.lunOrDefault.toNat)
      (s.attempts - 1) (s.login target.1 target.2 h)
    dsimp only
    generalize waitFor _ _ _ _ = result at waited ⊢
    rcases result with ⟨_ | _,after⟩
    · exact waited
    · dsimp only at waited ⊢
      rcases prepare _ after.files with ⟨_ | _,files⟩ <;> exact waited

theorem calls_of_located {spec : StorageSpec} {h after : Host} {pair : String × String}
    (found : s.located spec h = (.ok pair,after)) : ∃ iqn portal, after.calls = h.calls ++ [iscsiLogin iqn portal] := by
  have calls := s.calls_located spec h
  rw [found] at calls
  cases target : spec.target with
  | error => simp [located,target] at found
  | ok names => exact ⟨names.1,names.2,by simpa [target,Except.toOption] using calls⟩

theorem located_of_prepared {spec : StorageSpec} {h there : Host} {iqn portal point : String} {files : FileTree}
    (target : spec.target = .ok (iqn,portal))
    (waited : waitFor s.pollInterval (devicePath s.byPathDir portal iqn spec.lunOrDefault.toNat) (s.attempts - 1)
      (s.login iqn portal h) = (true,there))
    (prepared : prepare (spec.mountPoint?.getD "") there.files = (.ok point,files)) :
    s.located spec h =
      (.ok (devicePath s.byPathDir portal iqn spec.lunOrDefault.toNat,point),{there with files}) := by
  simp only [located,target,waited,prepared]

theorem absolute_of_canonicalize {path point : String} {files : FileTree}
    (resolved : files.canonicalize path = .ok point) : ∃ names, point = "/" ++ names := by
  cases found : files.look path with
  | error e => simp [FileTree.canonicalize,found,bind,Except.bind] at resolved
  | ok place =>
    simp only [FileTree.canonicalize,found,bind,Except.bind,pure,Except.pure,Except.ok.injEq] at resolved
    exact ⟨_,resolved.symm⟩

theorem absolute_of_prepare {path point : String} {files after : FileTree}
    (prepared : prepare path files = (.ok point,after)) : ∃ names, point = "/" ++ names := by
  unfold prepare at prepared
  split at prepared
  next => cases prepared
  next => exact absolute_of_canonicalize (Prod.mk.inj prepared).1

theorem absolute_of_located {spec : StorageSpec} {h after : Host} {device point : String}
    (found : s.located spec h = (.ok (device,point),after)) : ∃ names, point = "/" ++ names := by
  unfold located at found
  split at found
  next => cases found
  next =>
    dsimp only at found
    split at found
    next => cases found
    next =>
      split at found
      next => cases found
      next prepared =>
        obtain ⟨pair,-⟩ := Prod.mk.inj found
        obtain ⟨-,rfl⟩ := Prod.mk.inj (Except.ok.inj pair)
        exact absolute_of_prepare prepared

theorem isLine_of_located {spec : StorageSpec} {h after : Host} {device point : String}
    (found : s.located spec h = (.ok (device,point),after)) (single : '\n' ∉ point.toList)
    (last : ∀ c, point.toList.getLast? = some c → Text.isBlank c = false) : Text.IsLine point := by
  obtain ⟨names,rfl⟩ := s.absolute_of_located found
  refine Text.isLine_of_ends (by simp [← String.toList_inj]) single (fun c first => ?_) last
  obtain rfl : '/' = c := by simpa using first
  decide

theorem ensureMounted_listed {device point : String} {h : Host}
    (listed : let answer := (s.tools h.calls (findmnt device)).output
      (answer.success && answer.lines.contains point) = true) :
    s.ensureMounted device point h = (.ok .alreadyMounted,(h.run s.tools (findmnt device)).2) := by
  have answered : s.isMounted device point h = (true,(h.run s.tools (findmnt device)).2) := Prod.ext listed rfl
  rw [ensureMounted,answered]

theorem calls_ensureMounted_unlisted {device point : String} {h : Host}
    (unlisted : let answer := (s.tools h.calls (findmnt device)).output
      (answer.success && answer.lines.contains point) = false) :
    (s.ensureMounted device point h).2.calls = h.calls ++ [findmnt device] ++ [mount device point] := by
  have answered : s.isMounted device point h = (false,(h.run s.tools (findmnt device)).2) := Prod.ext unlisted rfl
  have ran : ((h.run s.tools (findmnt device)).2.runChecked s.tools (mount device point)).2.calls =
      h.calls ++ [findmnt device] ++ [mount device point] := rfl
  rw [ensureMounted,answered]
  dsimp only
  generalize Host.runChecked _ _ _ = result at ran ⊢
  rcases result with ⟨_ | _,after⟩ <;> exact ran

theorem applyRow_host (row : TypedRow StorageSpec) (report : SyncReport) (h : Host) :
    (s.applyRow row report h).2 = (s.attach row.value h).2 := by
  unfold applyRow
  rcases s.attach row.value h with ⟨(_ | _ | _ | _) | _,after⟩ <;> rfl

def pass (snapshot : Snapshot) (h : Host) : Host := (s.sync snapshot h).2

theorem pass_eq (snapshot : Snapshot) (h : Host) : s.pass snapshot h =
    ((snapshot.typed StorageSpec).map (·.value)).foldl (fun h spec => (s.attach spec h).2) h := by
  unfold pass sync
  generalize snapshot.typed StorageSpec = rows
  generalize ({} : SyncReport) = report
  induction rows generalizing report h with
  | nil => rfl
  | cons row rest ih => rw [List.foldl_cons,List.map_cons,List.foldl_cons,ih,applyRow_host]

/-- A mount point that is not a line of its own is mounted on by every attach, whatever the tools print. -/
theorem mounts_unless_isLine {spec : StorageSpec} {h after : Host} {device point : String}
    (found : s.located spec h = (.ok (device,point),after)) (odd : ¬Text.IsLine point) : ∃ iqn portal,
      (s.attach spec h).2.calls = h.calls ++ [iscsiLogin iqn portal,findmnt device,mount device point] := by
  obtain ⟨iqn,portal,calls⟩ := s.calls_of_located found
  let answer := (s.tools after.calls (findmnt device)).output
  have unread : point ∉ answer.lines := fun member => odd (Text.isLine_of_mem_filledLines member)
  have unlisted : (answer.success && answer.lines.contains point) = false := by simp [unread]
  refine ⟨iqn,portal,?_⟩
  rw [attach_eq,found]
  dsimp only
  rw [s.calls_ensureMounted_unlisted unlisted,calls]
  simp

end Rows

section Passes

variable {s : Storage} {table : List Command → MountTable} (honest : Honest s.tools table)

include honest

theorem heeds_ensureMounted (device point : String) (h : Host) :
    ∃ run, (s.ensureMounted device point h).2.calls = h.calls ++ run ∧ Heeds (Due table) h.calls run := by
  let answer := (s.tools h.calls (findmnt device)).output
  by_cases listed : (answer.success && answer.lines.contains point) = true
  · exact ⟨[findmnt device],by rw [s.ensureMounted_listed listed]; rfl,
      Heeds.cons_iff.mpr ⟨.findmnt device,.nil _⟩⟩
  · refine ⟨[findmnt device,mount device point],?_,?_⟩
    · rw [s.calls_ensureMounted_unlisted (Bool.eq_false_iff.mpr listed),List.append_assoc]
      rfl
    · refine Heeds.cons_iff.mpr ⟨.findmnt device,Heeds.cons_iff.mpr ⟨.mount fun plain mounted => listed ?_,.nil _⟩⟩
      rw [honest.reads] at mounted
      exact honest.listed plain mounted

theorem heeds_attach (spec : StorageSpec) (h : Host) :
    ∃ run, (s.attach spec h).2.calls = h.calls ++ run ∧ Heeds (Due table) h.calls run := by
  have located := s.calls_located spec h
  rw [attach_eq]
  generalize s.located spec h = result at located ⊢
  have logins (history : List Command) : Heeds (Due table) history
      (spec.target.toOption.toList.map fun target => iscsiLogin target.1 target.2) := by
    rcases spec.target.toOption with _ | ⟨iqn,portal⟩
    · exact .nil _
    · exact Heeds.cons_iff.mpr ⟨.login iqn portal,.nil _⟩
  rcases result with ⟨_ | ⟨device,point⟩,after⟩
  · exact ⟨_,located,logins _⟩
  · obtain ⟨run,calls,heeds⟩ := heeds_ensureMounted honest device point after
    dsimp only at located
    rw [located] at calls heeds
    exact ⟨_,calls.trans (List.append_assoc ..),Heeds.append_iff.mpr ⟨logins _,heeds⟩⟩

theorem heeds_pass (snapshot : Snapshot) (h : Host) :
    ∃ run, (s.pass snapshot h).calls = h.calls ++ run ∧ Heeds (Due table) h.calls run := by
  rw [pass_eq]
  generalize (snapshot.typed StorageSpec).map (·.value) = specs
  induction specs generalizing h with
  | nil => exact ⟨[],(List.append_nil _).symm,.nil _⟩
  | cons spec rest ih =>
    obtain ⟨first,calls,heeds⟩ := heeds_attach honest spec h
    obtain ⟨more,later,also⟩ := ih (s.attach spec h).2
    rw [calls] at later also
    exact ⟨first ++ more,later.trans (List.append_assoc ..),Heeds.append_iff.mpr ⟨heeds,also⟩⟩

end Passes

variable {s : Storage} {table : List Command → MountTable}

/-- Over any passes with an honest mount table, a device is mounted at most once on a mount point that is a line
of its own. A row whose mount point is resolved to a path without a line feed in it and without a blank at its end
is already mounted as soon as the table has the pair, and the table keeps what it has. -/
theorem passes_mount_once (honest : Honest s.tools table) {start final : Host}
    (passes : Passes Host.calls s.pass start final) :
    (∃ run, final.calls = start.calls ++ run ∧ Heeds (Due table) start.calls run ∧
      (∀ device point, Text.IsLine point →
        times s.tools (mount device point) Output.success start.calls run ≤ 1) ∧
      ∀ first second later pair, run = first ++ second ++ later → pair ∈ table (start.calls ++ first) →
        pair ∈ table (start.calls ++ first ++ second)) ∧
    ∀ spec h device point after, s.located spec h = (.ok (device,point),after) → '\n' ∉ point.toList →
      (∀ c, point.toList.getLast? = some c → Text.isBlank c = false) → Text.IsLine point ∧
      ((device,point) ∈ table h.calls → (s.attach spec h).1 = .ok .alreadyMounted ∧
        ∃ iqn portal, (s.attach spec h).2.calls = h.calls ++ [iscsiLogin iqn portal,findmnt device]) := by
  obtain ⟨run,calls,heeds⟩ := passes.heeds (heeds_pass honest)
  refine ⟨⟨run,calls,heeds,fun _ _ plain => honest.times_mount_le_one plain heeds,?_⟩,?_⟩
  · rintro first second later pair rfl mounted
    exact honest.stays heeds.middle mounted
  · intro spec h device point after found single last
    have plain := s.isLine_of_located found single last
    refine ⟨plain,fun mounted => ?_⟩
    obtain ⟨iqn,portal,calls⟩ := s.calls_of_located found
    have still : (device,point) ∈ table after.calls := calls ▸ honest.keeps_login iqn portal mounted
    rw [attach_eq,found]
    dsimp only
    rw [s.ensureMounted_listed (honest.listed plain still)]
    refine ⟨rfl,iqn,portal,?_⟩
    change after.calls ++ [findmnt device] = _
    rw [calls,List.append_assoc]
    rfl

namespace MountTable

def after (table : MountTable) : Command → MountTable
  | ⟨"mount",[device,point]⟩ => (device,point) :: table
  | _ => table

def answer (table : MountTable) : Command → Output
  | ⟨"findmnt",["-n","-o","TARGET","--source",device]⟩ =>
    ⟨some (if (table.targets device).isEmpty then 1 else 0),Text.ofLines (table.targets device)⟩
  | _ => .ok ""

def tools (table : MountTable) : Tools := fun h c => ⟨(h.foldl after table).answer c,[]⟩

theorem honest_tools (table : MountTable) : Honest table.tools (fun h => h.foldl after table) where
  prints _ _ := rfl
  finds {h device} filled := by simp [tools,answer,findmnt,Output.success,filled]
  reads h device := by rw [List.foldl_append]; rfl
  mounts {h device point} _ := by rw [List.foldl_append]; exact List.mem_cons_self
  keeps_mount {h pair} device point mounted := by rw [List.foldl_append]; exact List.mem_cons_of_mem _ mounted
  keeps_login {h pair} iqn portal mounted := by rw [List.foldl_append]; exact mounted

end MountTable

def shelfDevice : String := "/ip-a:1-iscsi-t-lun-0"

/-- The device and one directory. -/
def shelf (dir : String) : FileTree := ⟨.ofList [(shelfDevice,.file [] false),(dir,.dir)],[]⟩

def shelfStorage (table : MountTable) : Storage := ⟨table.tools,"/",1,0⟩

def shelfSpec (wanted : String) : StorageSpec :=
  {targetIqn := some "t",portalIp := some "a:1",mountPoint := some wanted}

theorem rooted_shelfDevice : Rooted shelfDevice "ip-a:1-iscsi-t-lun-0" false :=
  ⟨by simp [shelfDevice],by decide +kernel,by decide +kernel,by decide +kernel,by decide +kernel,by decide +kernel⟩

theorem prepare_of_rooted {path name : String} {slash : Bool} {files : FileTree} (rooted : Rooted path name slash)
    (found : files.node? [name] = some .dir) : prepare path files = (.ok ("/" ++ name),files) := by
  rw [prepare,FileTree.createDirAll_of_rooted rooted found]
  exact congrArg (·,files) (FileTree.canonicalize_of_rooted_dir rooted found)

theorem located_shelf {table : MountTable} {written wanted dir : String} {h : Host} (files : h.files = shelf dir)
    (node : (shelf dir).node? ["ip-a:1-iscsi-t-lun-0"] = some (.file [] false))
    (trimmed : (shelfSpec written).mountPoint? = some wanted)
    (prepared : prepare wanted (shelf dir) = (.ok dir,shelf dir)) :
    (shelfStorage table).located (shelfSpec written) h =
      (.ok (shelfDevice,dir),{h with calls := h.calls ++ [iscsiLogin "t" "a:1"]}) := by
  have target : (shelfSpec written).target = .ok ("t","a:1") := by rfl
  have device : devicePath "/" "a:1" "t" 0 = shelfDevice := by decide +kernel
  have there : h.files.contains shelfDevice = true :=
    files ▸ FileTree.contains_of_rooted rooted_shelfDevice node (by simp)
  have waited : waitFor 0 shelfDevice 0 ((shelfStorage table).login "t" "a:1" h) =
      (true,{h with calls := h.calls ++ [iscsiLogin "t" "a:1"]}) := Prod.ext there rfl
  rw [← device] at waited ⊢
  rw [← files] at prepared
  refine located_of_prepared (shelfStorage table) target waited ?_
  rwa [trimmed]

theorem attach_shelf {written wanted dir : String} {h : Host} (files : h.files = shelf dir)
    (node : (shelf dir).node? ["ip-a:1-iscsi-t-lun-0"] = some (.file [] false))
    (trimmed : (shelfSpec written).mountPoint? = some wanted)
    (prepared : prepare wanted (shelf dir) = (.ok dir,shelf dir))
    (unlisted : let answer := ((shelfStorage []).tools (h.calls ++ [iscsiLogin "t" "a:1"]) (findmnt shelfDevice)).output
      (answer.success && answer.lines.contains dir) = false) :
    (shelfStorage []).attach (shelfSpec written) h = (.ok .mounted,
      {h with calls := h.calls ++ [iscsiLogin "t" "a:1",findmnt shelfDevice,mount shelfDevice dir]}) := by
  have listing : (shelfStorage []).isMounted shelfDevice dir {h with calls := h.calls ++ [iscsiLogin "t" "a:1"]} =
      (false,{h with calls := h.calls ++ [iscsiLogin "t" "a:1"] ++ [findmnt shelfDevice]}) := Prod.ext unlisted rfl
  rw [attach_eq,located_shelf files node trimmed prepared]
  dsimp only
  rw [ensureMounted,listing]
  change (Except.ok AttachOutcome.mounted,{h with calls := h.calls ++ [iscsiLogin "t" "a:1"] ++
    [findmnt shelfDevice] ++ [mount shelfDevice dir]}) = _
  rw [List.append_assoc,List.append_assoc]
  rfl

/-- One row, with its mount point as it is written. -/
def shelfRow (written : String) : Snapshot := (Snapshot.new 1).withTable (.ofRows "Storage"
  [⟨"1",.ofList [("target_iqn",.text "t"),("portal_ip",.text "a:1"),("mount_point",.text written)]⟩])

/-- The mount point is written with blanks around it, a blank in it and a slash at its end. The first pass mounts. -/
theorem listed_point_is_already_mounted :
    let s := shelfStorage []
    let h : Host := .new (shelf "/m a")
    let once := s.pass (shelfRow " /m a/ ") h
    let twice := s.pass (shelfRow " /m a/ ") once
    Honest s.tools (fun h => h.foldl MountTable.after []) ∧ Passes Host.calls s.pass h twice ∧
    once.calls = [iscsiLogin "t" "a:1",findmnt shelfDevice,mount shelfDevice "/m a"] ∧
    times s.tools (mount shelfDevice "/m a") Output.success [] twice.calls ≤ 1 ∧
    (s.attach (shelfSpec " /m a/ ") once).1 = .ok .alreadyMounted ∧
    ∃ iqn portal, twice.calls = once.calls ++ [iscsiLogin iqn portal,findmnt shelfDevice] := by
  intro s h once twice
  have honest : Honest s.tools (fun h => h.foldl MountTable.after []) := MountTable.honest_tools []
  have node : (shelf "/m a").node? ["ip-a:1-iscsi-t-lun-0"] = some (.file [] false) := by decide +kernel
  have trimmed : (shelfSpec " /m a/ ").mountPoint? = some "/m a/" := by decide +kernel
  have rooted : Rooted "/m a/" "m a" true :=
    ⟨by simp,by decide +kernel,by decide +kernel,by decide +kernel,by decide +kernel,by decide +kernel⟩
  have prepared : prepare "/m a/" (shelf "/m a") = (.ok "/m a",_) := prepare_of_rooted rooted (by decide +kernel)
  have pass (h : Host) : s.pass (shelfRow " /m a/ ") h = (s.attach (shelfSpec " /m a/ ") h).2 := s.pass_eq _ h
  have first : once = _ :=
    (pass h).trans (congrArg Prod.snd (attach_shelf rfl node trimmed prepared (by decide +kernel)))
  have found : s.located (shelfSpec " /m a/ ") once = _ := located_shelf (by rw [first]; rfl) node trimmed prepared
  have passes : Passes Host.calls s.pass h twice := .pass _ (.pass _ .start)
  obtain ⟨⟨run,calls,-,mounts,-⟩,attaches⟩ := passes_mount_once honest passes
  have last : ∀ c, "/m a".toList.getLast? = some c → Text.isBlank c = false := by
    intro c found
    obtain rfl : 'a' = c := by simpa using found
    decide
  obtain ⟨line,settled⟩ := attaches _ _ _ _ _ found (by decide) last
  have mounted : (shelfDevice,"/m a") ∈ once.calls.foldl MountTable.after [] := by
    rw [first]
    decide +kernel
  obtain ⟨already,later⟩ := settled mounted
  have ran : run = twice.calls := calls.symm
  refine ⟨honest,passes,by rw [first]; rfl,ran ▸ mounts _ _ line,already,?_⟩
  rwa [show twice = _ from pass once]

/-- A row whose mount point ends in a blank. -/
def blankEnded : Snapshot := shelfRow "/m a /"

theorem attach_blankEnded {h : Host} (files : h.files = shelf "/m a ")
    (unlisted : let answer := ((shelfStorage []).tools (h.calls ++ [iscsiLogin "t" "a:1"]) (findmnt shelfDevice)).output
      (answer.success && answer.lines.contains "/m a ") = false) :
    (shelfStorage []).attach (shelfSpec "/m a /") h = (.ok .mounted,
      {h with calls := h.calls ++ [iscsiLogin "t" "a:1",findmnt shelfDevice,mount shelfDevice "/m a "]}) := by
  have rooted : Rooted "/m a /" "m a " true :=
    ⟨by simp,by decide +kernel,by decide +kernel,by decide +kernel,by decide +kernel,by decide +kernel⟩
  have prepared : prepare "/m a /" (shelf "/m a ") = (.ok "/m a ",_) := prepare_of_rooted rooted (by decide +kernel)
  exact attach_shelf files (by decide +kernel) (by decide +kernel) prepared unlisted

theorem blank_ended_point_is_mounted_again :
    let s := shelfStorage []
    let h : Host := .new (shelf "/m a ")
    let once := s.pass blankEnded h
    let twice := s.pass blankEnded once
    Honest s.tools (fun h => h.foldl MountTable.after []) ∧ Passes Host.calls s.pass h twice ∧
    (shelfDevice,"/m a ") ∈ once.calls.foldl MountTable.after [] ∧
    (s.attach (shelfSpec "/m a /") once).1 = .ok .mounted ∧
    times s.tools (mount shelfDevice "/m a ") Output.success [] twice.calls = 2 := by
  intro s h once twice
  have honest : Honest s.tools (fun h => h.foldl MountTable.after []) := MountTable.honest_tools []
  have pass (h : Host) : s.pass blankEnded h = (s.attach (shelfSpec "/m a /") h).2 := s.pass_eq blankEnded h
  have first : once = _ := (pass h).trans (congrArg Prod.snd (attach_blankEnded rfl (by decide +kernel)))
  have attached := attach_blankEnded (h := once) (by rw [first]; rfl) (by rw [first]; decide +kernel)
  have second : twice = _ := (pass once).trans (congrArg Prod.snd attached)
  refine ⟨honest,.pass _ (.pass _ .start),?_,congrArg Prod.fst attached,?_⟩
  · rw [first]
    decide +kernel
  · rw [second,first]
    decide +kernel

end Hostkeeper.Storage
