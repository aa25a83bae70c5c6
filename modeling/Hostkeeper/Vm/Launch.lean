import Hostkeeper.Schema.Record
import Hostkeeper.OsError

/-! The command line of a virtual machine's hypervisor. -/
namespace Hostkeeper

structure LaunchCommand where
  name : String
  program : String
  args : List String
  deriving DecidableEq, Repr

inductive VmError where
  | missingDisk (name : String)
  | launch (name : String) (error : OsError)
  deriving DecidableEq, Repr

def VmError.message : VmError → String
  | .missingDisk name => "VM " ++ name ++ " has no disk_path"
  | .launch name error => "failed to launch VM " ++ name ++ ": " ++ error.message

namespace LaunchCommand

def driveOption (disk : String) : String := "file=" ++ disk ++ ",if=virtio,format=raw"

def deviceOption (device : String) : String := "vfio-pci,host=" ++ device

def deviceArgs (device : String) : List String := ["-device",deviceOption device]

/-- The command line for a machine; it needs a disk. -/
def forVm (qemuBin : String) (spec : VmSpec) : Except VmError LaunchCommand :=
  match spec.disk with
  | none => .error (.missingDisk spec.name)
  | some disk =>
    .ok {
      name := spec.name
      program := qemuBin
      args := ["-name",spec.name,"-m",toString spec.ramMb.toNat,"-smp",toString spec.vcpus.toNat,
        "-drive",driveOption disk,"-nographic","-enable-kvm"] ++
        (spec.pciPassthrough.filterMap Text.trimmed?).flatMap deviceArgs}

def hasPair (c : LaunchCommand) (flag value : String) : Bool := (c.args.zip (c.args.drop 1)).contains (flag,value)

def text (c : LaunchCommand) : String := Text.joinWith " " (c.program :: c.args)

end LaunchCommand

end Hostkeeper
