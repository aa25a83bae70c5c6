import Hostkeeper.Host.World
import Hostkeeper.Reconcile.Loop
import Hostkeeper.Text.Numeral

/-! The storage domain: logs in to remote targets, waits for their block devices, and mounts them. -/
namespace Hostkeeper

structure Storage where
  tools : Tools
  byPathDir : String
  attempts : Nat
  pollInterval : Nat

inductive StorageError where
  | invalid (error : SchemaError)
  | deviceTimeout (path : String) (attempts : Nat)
  | mountPoint (path : String) (error : OsError)
  | mount (error : CommandError)

def StorageError.message : StorageError → String
  | .invalid error => error.message
  | .deviceTimeout path attempts =>
    "device " ++ path ++ " did not appear after " ++ toString attempts ++ " attempts"
  | .mountPoint path error => "failed to create mount point " ++ path ++ ": " ++ error.message
  | .mount error => "mount failed: " ++ error.message

inductive AttachOutcome where
  | mounted
  | alreadyMounted
  deriving DecidableEq, Repr

namespace Storage

def tables : List String := ["Storage"]

def splitPort (portal : List Char) : Option (List Char × List Char) :=
  if portal.contains ':' then
    some ((portal.reverse.dropWhile (· ≠ ':')).tail.reverse,(portal.reverse.takeWhile (· ≠ ':')).reverse)
  else none

/-- Whether a portal names a port. Colons before the port are an address's own unless it is in brackets. -/
def hasPort (portal : String) : Bool :=
  match splitPort portal.toList with
  | some (host,port) =>
    (Text.readNat 65535 (String.ofList port)).isOk && (!host.contains ':' || host.getLast? = some ']')
  | none => false

def fullPortal (portal : String) : String := if hasPort portal then portal else portal ++ ":3260"

def deviceName (portal iqn : String) (lun : Nat) : String :=
  "ip-" ++ fullPortal portal ++ "-iscsi-" ++ iqn ++ "-lun-" ++ toString lun

def devicePath (dir portal iqn : String) (lun : Nat) : String := joinPath dir (deviceName portal iqn lun)

/-- Logs in to a target. A failure does not matter: the device may be there from before. -/
def login (s : Storage) (iqn portal : String) (h : Host) : Host :=
  (h.run s.tools ⟨"iscsiadm",["-m","node","-T",iqn,"-p",portal,"--login"]⟩).2

def waitFor (interval : Nat) (path : String) : Nat → Host → Bool × Host
  | 0, h => (h.files.contains path,h)
  | more + 1, h => if h.files.contains path then (true,h) else waitFor interval path more (h.sleep interval)

/-- Whether the mount table has the device on the mount point. -/
def isMounted (s : Storage) (device mountPoint : String) (h : Host) : Bool × Host :=
  let (output,h) := h.run s.tools ⟨"findmnt",["-n","-o","TARGET","--source",device]⟩
  (output.success && output.lines.contains mountPoint,h)

def prepare (path : String) (files : FileTree) : Except OsError String × FileTree :=
  match files.createDirAll path with
  | (.error e,files) => (.error e,files)
  | (.ok (),files) => (files.canonicalize path,files)

def attach (s : Storage) (spec : StorageSpec) (h : Host) : Except StorageError AttachOutcome × Host :=
  match spec.target with
  | .error e => (.error (.invalid e),h)
  | .ok (iqn,portal) =>
    let wanted := spec.mountPoint?.getD ""
    let h := s.login iqn portal h
    let device := devicePath s.byPathDir portal iqn spec.lunOrDefault.toNat
    match waitFor s.pollInterval device (s.attempts - 1) h with
    | (false,h) => (.error (.deviceTimeout device (max s.attempts 1)),h)
    | (true,h) =>
      match prepare wanted h.files with
      | (.error e,files) => (.error (.mountPoint wanted e),{h with files})
      | (.ok mountPoint,files) =>
        match s.isMounted device mountPoint {h with files} with
        | (true,h) => (.ok .alreadyMounted,h)
        | (false,h) =>
          match h.runChecked s.tools ⟨"mount",[device,mountPoint]⟩ with
          | (.ok _,h) => (.ok .mounted,h)
          | (.error e,h) => (.error (.mount e),h)

def applyRow (s : Storage) (row : TypedRow StorageSpec) (report : SyncReport) (h : Host) : SyncReport × Host :=
  match s.attach row.value h with
  | (.ok _,h) => (report.recordApplied,h)
  | (.error (.invalid e),h) => (report.recordSkipped row.key e.message,h)
  | (.error e,h) => (report.recordFailure row.key e.message,h)

def sync (s : Storage) (snapshot : Snapshot) (h : Host) : SyncReport × Host :=
  (snapshot.typed StorageSpec).foldl (fun acc row => s.applyRow row acc.1 acc.2) ({},h)

def domain (σ : Type) (s : Storage) : Domain σ Host where
  tables := tables
  everyTick := false
  sync snapshot h store :=
    let (report,h) := s.sync snapshot h
    (report,h,store)

end Storage

end Hostkeeper
