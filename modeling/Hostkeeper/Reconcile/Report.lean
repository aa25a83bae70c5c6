/-! What became of the rows of a snapshot in one pass. Failures are collected, so that one bad row never keeps
the others from being looked at. -/
namespace Hostkeeper

structure RowFailure where
  key : String
  error : String
  deriving DecidableEq, Repr

/-- A row that was left alone on purpose. -/
structure RowSkip where
  key : String
  reason : String
  deriving DecidableEq, Repr

structure SyncReport where
  applied : Nat := 0
  skipped : List RowSkip := []
  failed : List RowFailure := []
  deriving DecidableEq, Repr

namespace SyncReport

def recordApplied (r : SyncReport) : SyncReport := {r with applied := r.applied + 1}

def recordSkipped (r : SyncReport) (key reason : String) : SyncReport :=
  {r with skipped := r.skipped ++ [⟨key,reason⟩]}

def recordFailure (r : SyncReport) (key error : String) : SyncReport :=
  {r with failed := r.failed ++ [⟨key,error⟩]}

def record (r : SyncReport) (key : String) : Except String Unit → SyncReport
  | .ok () => r.recordApplied
  | .error error => r.recordFailure key error

def merge (r other : SyncReport) : SyncReport :=
  ⟨r.applied + other.applied,r.skipped ++ other.skipped,r.failed ++ other.failed⟩

def isClean (r : SyncReport) : Bool := r.failed.isEmpty

def failedKeys (r : SyncReport) : List String := r.failed.map (·.key)

end SyncReport

end Hostkeeper
