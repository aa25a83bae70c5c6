import Hostkeeper.Proofs.Text.Lines
import Hostkeeper.Vm.Launch
import Mathlib.Data.List.Forall2

/-! The command line of a machine as its hypervisor reads it. Options stand between single commas, and two
commas in a row stand for one in a value. The disk and the devices are passed on as they are named in the
row exactly if no name has a comma in it. -/
namespace Hostkeeper

namespace OptionList

/-- An option with its value, or a bare name. -/
abbrev Entry := String × Option String

def push (c : Char) : List (List Char) → List (List Char)
  | [] => [[c]]
  | piece :: pieces => (c :: piece) :: pieces

/-- The pieces between single commas. -/
def pieces : List Char → List (List Char)
  | [] => []
  | ',' :: ',' :: rest => push ',' (pieces rest)
  | ',' :: rest => [] :: pieces rest
  | c :: rest => push c (pieces rest)

/-- A name and a value around the first equals sign. Without one it is the value of the implied name, if any. -/
def entry (implied : Option String) (piece : List Char) : Entry :=
  match piece.dropWhile (· ≠ '='),implied with
  | _ :: value,_ => (String.ofList (piece.takeWhile (· ≠ '=')),some (String.ofList value))
  | [],some name => (name,some (String.ofList piece))
  | [],none => (String.ofList piece,none)

/-- A name may be implied for the first option. -/
def read (implied : Option String) (text : List Char) : List Entry :=
  match pieces text with
  | [] => []
  | first :: rest => entry implied first :: rest.map (entry none)

theorem push_eq (c : Char) (list : List (List Char)) : push c list = (c :: list.headD []) :: list.tail := by
  cases list <;> rfl

theorem pieces_cons {c : Char} (plain : c ≠ ',') (rest : List Char) : pieces (c :: rest) = push c (pieces rest) := by
  rw [pieces.eq_4]
  · intro _ impossible
    exact absurd impossible plain
  · exact plain

theorem pieces_separator {x : Char} (single : x ≠ ',') (rest : List Char) :
    pieces (',' :: x :: rest) = [] :: pieces (x :: rest) := by
  rw [pieces.eq_3]
  intro _ impossible
  exact single (List.cons.inj impossible).1

theorem pieces_ne_nil {text : List Char} (filled : text ≠ []) : pieces text ≠ [] := by
  unfold pieces
  split <;> simp_all [push_eq]

/-- A value ends before this text: nothing is left, or a single comma comes next. -/
inductive Closed : List Char → Prop
  | ended : Closed []
  | next (x rest) (single : x ≠ ',') : Closed (',' :: x :: rest)

theorem headD_of_closed {rest : List Char} (closed : Closed rest) : (pieces rest).headD [] = [] := by
  cases closed with
  | ended => rfl
  | next x rest single => rw [pieces_separator single]; rfl

theorem headD_append {value : List Char} (plain : ',' ∉ value) (rest : List Char) :
    (pieces (value ++ rest)).headD [] = value ++ (pieces rest).headD [] := by
  induction value with
  | nil => rfl
  | cons c value ih =>
    obtain ⟨other,plain⟩ := not_or.mp (List.mem_cons.not.mp plain)
    rw [List.cons_append,pieces_cons (Ne.symm other),push_eq,List.headD_cons,ih plain,List.cons_append]

theorem tail_append {value : List Char} (plain : ',' ∉ value) (rest : List Char) :
    (pieces (value ++ rest)).tail = (pieces rest).tail := by
  induction value with
  | nil => rfl
  | cons c value ih =>
    obtain ⟨other,plain⟩ := not_or.mp (List.mem_cons.not.mp plain)
    rw [List.cons_append,pieces_cons (Ne.symm other),push_eq,List.tail_cons,ih plain]

theorem plain_of_headD {value rest : List Char} (closed : Closed rest) (count : Nat)
    (same : (pieces (value ++ rest)).headD [] = List.replicate count ',' ++ value) : count = 0 ∧ ',' ∉ value := by
  -- A pair is read as one comma, so what is read falls behind the text by the commas counted here, and the text
  -- would have to go on with them.
  induction value using pieces.induct generalizing count with
  | case1 =>
    rw [List.nil_append,List.append_nil,headD_of_closed closed] at same
    exact ⟨by simpa using congrArg List.length same.symm,by simp⟩
  | case2 value ih =>
    rw [List.cons_append,List.cons_append,pieces,push_eq,List.headD_cons] at same
    have shifted :
        List.replicate count ',' ++ ',' :: ',' :: value = ',' :: (List.replicate (count + 1) ',' ++ value) := by
      rw [List.append_cons,← List.replicate_succ',List.append_cons,← List.replicate_succ']
      rfl
    rw [shifted] at same
    exact absurd (ih (count + 1) (List.cons.inj same).2).1 (Nat.succ_ne_zero count)
  | case3 value single =>
    exfalso
    cases value with
    | cons x value =>
      have other : x ≠ ',' := fun equal => single value (by rw [equal])
      rw [List.cons_append,List.cons_append,pieces_separator other] at same
      simp at same
    | nil =>
      cases closed with
      | ended => simp [pieces] at same
      | next x rest other =>
        rw [List.cons_append,List.nil_append,pieces,pieces_cons other,push_eq,push_eq,List.headD_cons,List.headD_cons,
          ← List.replicate_succ'] at same
        have member : x ∈ List.replicate (count + 1) ',' := by rw [← same]; simp
        exact other (List.eq_of_mem_replicate member)
  | case4 c value _ plain ih =>
    rw [List.cons_append,pieces_cons plain,push_eq,List.headD_cons] at same
    cases count with
    | zero =>
      obtain ⟨_,absent⟩ := ih 0 (List.cons.inj same).2
      exact ⟨rfl,by simp [Ne.symm plain,absent]⟩
    | succ count => exact absurd (List.cons.inj same).1 plain

theorem entry_named (implied : Option String) {key : List Char} (unmarked : '=' ∉ key) (value : List Char) :
    entry implied (key ++ '=' :: value) = (String.ofList key,some (String.ofList value)) := by
  have before : ∀ c ∈ key, decide (c ≠ '=') = true := fun c member => by
    simpa using fun equal : c = '=' => unmarked (equal ▸ member)
  unfold entry
  rw [List.dropWhile_append_of_pos before,List.takeWhile_append_of_pos before]
  simp

theorem entry_bare (name : String) {value : List Char} (unmarked : '=' ∉ value) :
    entry (some name) value = (name,some (String.ofList value)) := by
  have all : value.dropWhile (· ≠ '=') = [] := by
    simpa [List.dropWhile_eq_nil_iff] using fun c member (equal : c = '=') => unmarked (equal ▸ member)
  unfold entry
  simp only [all]

theorem read_eq (implied : Option String) {text : List Char} (filled : text ≠ []) :
    read implied text = entry implied ((pieces text).headD []) :: (pieces text).tail.map (entry none) := by
  unfold read
  split
  next nothing => exact absurd nothing (pieces_ne_nil filled)
  next first rest equal => rw [equal]; rfl

theorem read_none (text : List Char) : read none text = (pieces text).map (entry none) := by
  unfold read
  cases pieces text <;> rfl

theorem read_named (implied : Option String) {key : List Char} (plain : ',' ∉ key) (unmarked : '=' ∉ key)
    (rest : List Char) : read implied (key ++ '=' :: rest) =
      (String.ofList key,some (String.ofList ((pieces rest).headD []))) :: (pieces rest).tail.map (entry none) := by
  have spelled : key ++ '=' :: rest = (key ++ ['=']) ++ rest := by simp
  have also : ',' ∉ key ++ ['='] := by simp [plain]
  have head : (pieces (key ++ '=' :: rest)).headD [] = key ++ '=' :: (pieces rest).headD [] := by
    rw [spelled,headD_append also]
    simp
  have tail : (pieces (key ++ '=' :: rest)).tail = (pieces rest).tail := by rw [spelled,tail_append also]
  rw [read_eq implied (by simp),head,tail,entry_named implied unmarked]

theorem read_bare (name : String) {value : List Char} (plain : ',' ∉ value) (unmarked : '=' ∉ value) {x : Char}
    (single : x ≠ ',') (rest : List Char) : read (some name) (value ++ ',' :: x :: rest) =
      (name,some (String.ofList value)) :: read none (x :: rest) := by
  rw [read_eq (some name) (by simp),headD_append plain,tail_append plain,pieces_separator single,List.headD_cons,
    List.tail_cons,List.append_nil,entry_bare name unmarked,read_none]

theorem read_value_iff (implied : Option String) {key : List Char} (plain : ',' ∉ key) (unmarked : '=' ∉ key)
    (value : String) {rest : List Char} (closed : Closed rest) :
    read implied (key ++ '=' :: (value.toList ++ rest)) =
        (String.ofList key,some value) :: (pieces rest).tail.map (entry none) ↔
      ',' ∉ value.toList := by
  rw [read_named implied plain unmarked,List.cons.injEq,Prod.mk.injEq,Option.some.injEq]
  constructor
  · rintro ⟨⟨_,first⟩,_⟩
    have same : (pieces (value.toList ++ rest)).headD [] = value.toList := by
      simpa using congrArg String.toList first
    exact (plain_of_headD closed 0 same).2
  · intro absent
    rw [headD_append absent,headD_of_closed closed,tail_append absent,List.append_nil,String.ofList_toList]
    exact ⟨⟨rfl,rfl⟩,rfl⟩

end OptionList

namespace LaunchCommand

open OptionList

def meantDrive (disk : String) : List Entry := [("file",some disk),("if",some "virtio"),("format",some "raw")]

def meantDevice (id : String) : List Entry := [("driver",some "vfio-pci"),("host",some id)]

theorem read_drive_iff (disk : String) :
    read none (driveOption disk).toList = meantDrive disk ↔ ',' ∉ disk.toList := by
  have closed : Closed ",if=virtio,format=raw".toList := .next 'i' "f=virtio,format=raw".toList (by decide)
  have spelled :
      (driveOption disk).toList = "file".toList ++ '=' :: (disk.toList ++ ",if=virtio,format=raw".toList) := by
    simp [driveOption]
  rw [spelled]
  exact read_value_iff none (by decide) (by decide) disk closed

theorem read_device_iff (id : String) :
    read (some "driver") (deviceOption id).toList = meantDevice id ↔ ',' ∉ id.toList := by
  have spelled : (deviceOption id).toList =
      "vfio-pci".toList ++ ',' :: 'h' :: ("ost".toList ++ '=' :: (id.toList ++ [])) := by simp [deviceOption]
  rw [spelled,read_bare "driver" (by decide) (by decide) (by decide),meantDevice,List.cons.injEq,
    String.ofList_toList,and_iff_right rfl]
  have host : ',' ∉ "host".toList ∧ '=' ∉ "host".toList := by decide
  exact read_value_iff none host.1 host.2 id .ended

/-- The flags that take the next word as their argument. -/
def valued : List String := ["-name","-m","-smp","-drive","-device"]

def argumentsOf (flag : String) : List String → List String
  | [] => []
  | [_] => []
  | word :: value :: rest =>
    if word ∈ valued then (if word = flag then [value] else []) ++ argumentsOf flag rest
    else argumentsOf flag (value :: rest)

def drives (c : LaunchCommand) : List (List Entry) :=
  (argumentsOf "-drive" c.args).map fun text => read none text.toList

def devices (c : LaunchCommand) : List (List Entry) :=
  (argumentsOf "-device" c.args).map fun text => read (some "driver") text.toList

theorem argumentsOf_valued (flag : String) {word : String} (known : word ∈ valued) (value : String)
    (rest : List String) : argumentsOf flag (word :: value :: rest) =
      (if word = flag then [value] else []) ++ argumentsOf flag rest := if_pos known

theorem argumentsOf_switch (flag : String) {word : String} (bare : word ∉ valued) (rest : List String) :
    argumentsOf flag (word :: rest) = argumentsOf flag rest := by
  cases rest with
  | nil => rfl
  | cons value rest => rw [argumentsOf,if_neg bare]

theorem argumentsOf_devices (flag : String) (ids : List String) : argumentsOf flag (ids.flatMap deviceArgs) =
    if flag = "-device" then ids.map deviceOption else [] := by
  induction ids with
  | nil => simp [argumentsOf]
  | cons id ids ih =>
    rw [List.flatMap_cons,deviceArgs,List.cons_append,List.cons_append,List.nil_append,
      argumentsOf_valued flag (by decide),ih]
    by_cases same : flag = "-device"
    · simp [same]
    · simp [same,Ne.symm same]

def passed (spec : VmSpec) : List String := (spec.pciPassthrough.map Text.trim).filter (· ≠ "")

theorem filterMap_trimmed (spec : VmSpec) : spec.pciPassthrough.filterMap Text.trimmed? = passed spec := by
  unfold passed
  induction spec.pciPassthrough with
  | nil => rfl
  | cons id ids ih =>
    rw [List.filterMap_cons,ih,List.map_cons,List.filter_cons,Text.trimmed?]
    by_cases empty : Text.trim id = ""
    · simp [empty]
    · simp [empty]

variable {qemuBin : String} {spec : VmSpec} {c : LaunchCommand}

theorem args_of_built (built : forVm qemuBin spec = .ok c) :
    ∃ path, spec.diskPath = some path ∧ Text.trim path ≠ "" ∧
      argumentsOf "-drive" c.args = [driveOption (Text.trim path)] ∧
      argumentsOf "-device" c.args = (passed spec).map deviceOption := by
  unfold forVm at built
  split at built
  next => cases built
  next disk named =>
    obtain ⟨path,set,trimmed⟩ := Option.bind_eq_some_iff.mp named
    obtain ⟨filled,rfl⟩ := Text.trimmed?_eq_some_iff.mp trimmed
    cases built
    refine ⟨path,set,filled,?_,?_⟩
    · simp (disch := decide) [argumentsOf_valued,argumentsOf_switch,argumentsOf_devices]
    · simp (disch := decide) [argumentsOf_valued,argumentsOf_switch,argumentsOf_devices,filterMap_trimmed]

/-- The hypervisor reads one drive, and one device for each id in order. Each of them has just the options that are
meant, unless there is a comma in the disk's path or in the device's id; then they are others. -/
theorem options_are_meant_iff (built : forVm qemuBin spec = .ok c) :
    ∃ path, spec.diskPath = some path ∧ Text.trim path ≠ "" ∧
      (∃ drive, c.drives = [drive] ∧ (drive = meantDrive (Text.trim path) ↔ ',' ∉ (Text.trim path).toList)) ∧
      List.Forall₂ (fun id device => device = meantDevice id ↔ ',' ∉ id.toList) (passed spec) c.devices := by
  obtain ⟨path,named,filled,drive,device⟩ := args_of_built built
  refine ⟨path,named,filled,⟨_,by rw [drives,drive]; rfl,read_drive_iff _⟩,?_⟩
  unfold devices
  rw [device,List.map_map,List.forall₂_map_right_iff]
  exact List.forall₂_same.mpr fun id _ => read_device_iff id

/-- A disk with an equals sign in its name, a device with blanks around it and one that is blank. -/
def plainSpec : VmSpec :=
  {name := "vm1", diskPath := some " /vm/a=b.img ", pciPassthrough := [" 0000:01:00.0","  ","0000:02:00.0"]}

theorem equals_sign_is_no_harm : ∃ c, forVm "qemu" plainSpec = .ok c ∧
    c.drives = [[("file",some "/vm/a=b.img"),("if",some "virtio"),("format",some "raw")]] ∧
    c.devices = [[("driver",some "vfio-pci"),("host",some "0000:01:00.0")],
      [("driver",some "vfio-pci"),("host",some "0000:02:00.0")]] := by
  have built : ∃ c, forVm "qemu" plainSpec = .ok c := ⟨_,rfl⟩
  obtain ⟨c,built⟩ := built
  obtain ⟨path,named,_,⟨drive,drives,meant⟩,devices⟩ := options_are_meant_iff built
  obtain rfl : " /vm/a=b.img " = path := Option.some.inj named
  have ids : passed plainSpec = ["0000:01:00.0","0000:02:00.0"] := by decide +kernel
  have image : Text.trim " /vm/a=b.img " = "/vm/a=b.img" := by decide +kernel
  rw [image] at meant
  have first := meant.mpr (by decide)
  refine ⟨c,built,by rw [drives,first]; rfl,?_⟩
  rw [ids] at devices
  generalize c.devices = read at devices
  cases devices with
  | cons one rest =>
    cases rest with
    | cons two rest =>
      cases rest
      rw [one.mpr (by decide),two.mpr (by decide)]
      rfl

def sharedSpec : VmSpec := {name := "vm1", diskPath := some "/vm/vm1.img,readonly=on"}

/-- The comma in the disk's name ends the value there, and the rest of it is another option. -/
theorem comma_adds_an_option :
    ∃ c, forVm "qemu" sharedSpec = .ok c ∧ c.drives ≠ [meantDrive "/vm/vm1.img,readonly=on"] ∧
    c.drives = [[("file",some "/vm/vm1.img"),("readonly",some "on"),("if",some "virtio"),("format",some "raw")]] := by
  refine ⟨_,rfl,by decide +kernel,by decide +kernel⟩

end LaunchCommand

end Hostkeeper
