import Hostkeeper.Json.Reader
import Hostkeeper.OsError
import Hostkeeper.Store.Transaction

/-! What every store client can do: advance its replica, read tables from it, and commit transactions. -/
namespace Hostkeeper

inductive ReplyFault where
  | notList (reply : Json)
  | selectFailed (error : Json)
  | noRows (table : String)
  | rowNotObject (row : Json)
  | rowWithoutId (row : Json)
  deriving DecidableEq, Repr

def ReplyFault.message : ReplyFault → String
  | .notList reply => "transact returned non-array result: " ++ reply.compact
  | .selectFailed error => "select failed: " ++ error.compact
  | .noRows table => "select on " ++ table ++ " returned no rows"
  | .rowNotObject row => "row is not an object: " ++ row.compact
  | .rowWithoutId row => "row without _uuid: " ++ row.compact

inductive StoreError where
  | schemaMissing (path : String)
  | unreachable (remote detail : String)
  | databaseMissing (database : String)
  | unknownTable (table : String)
  | protocol (fault : ReplyFault)
  | io (error : OsError)
  | json (error : Json.ReadError)
  deriving DecidableEq, Repr

def StoreError.message : StoreError → String
  | .schemaMissing path => "schema not found: " ++ path
  | .unreachable remote detail => "store unreachable at " ++ remote ++ ": " ++ detail
  | .databaseMissing database => "database " ++ database ++ " not found"
  | .unknownTable table => "unknown table: " ++ table
  | .protocol fault => "protocol error: " ++ fault.message
  | .io error => "I/O error: " ++ error.message
  | .json error => "JSON error: " ++ error.message

class StoreClient (σ : Type) where
  /-- Takes in all changes of the store; the version then covers them. -/
  run : σ → Except StoreError Unit × σ
  version : σ → Nat
  table : σ → String → Except StoreError TableSnapshot
  commit : Transaction → σ → Except StoreError CommitStatus × σ

end Hostkeeper
