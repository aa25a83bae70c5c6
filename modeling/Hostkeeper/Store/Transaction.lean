import Hostkeeper.Store.Snapshot

/-! Transactions: writes that take effect together, in order, or not at all. -/
namespace Hostkeeper

inductive Write where
  | insert (table : String) (fields : Fields)
  | update (table : String) (id : RowId) (fields : Fields)
  deriving DecidableEq

namespace Write

def table : Write → String
  | .insert table _ | .update table _ _ => table

def fields : Write → Fields
  | .insert _ fields | .update _ _ fields => fields

def isEmpty : Write → Bool
  | .insert .. => false
  | .update _ _ fields => fields.isEmpty

/-- Updates the given row, or adds one if there is none. -/
def upsert (table : String) (existing : Option RowId) (fields : Fields) : Write :=
  match existing with
  | some id => .update table id fields
  | none => .insert table fields

end Write

structure Transaction where
  writes : List Write
  deriving DecidableEq

def Transaction.isEmpty (t : Transaction) : Bool := t.writes.all Write.isEmpty

inductive CommitStatus where
  | success
  | unchanged
  | tryAgain
  | error (detail : String)
  deriving DecidableEq, Repr

def CommitStatus.isSuccess : CommitStatus → Bool
  | .success | .unchanged => true
  | .tryAgain | .error _ => false

def CommitStatus.message : CommitStatus → String
  | .success => "success"
  | .unchanged => "unchanged"
  | .tryAgain => "try again"
  | .error detail => "error: " ++ detail

end Hostkeeper
