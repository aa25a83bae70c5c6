import Hostkeeper.Operator.Grid
import Hostkeeper.Operator.Help
import Hostkeeper.Operator.Options
import Hostkeeper.Store.Ovsdb

/-! The operator's program: it connects to the store, reads one table, and shows it or sets a field of a row. A
value that does not fit its field is refused before the store is asked for anything. -/
namespace Hostkeeper.Operator

inductive Failure where
  | setting (error : SettingError)
  | connect (remote : String) (error : StoreError)
  | readTable (table : String) (error : StoreError)
  | store (error : StoreError)
  | commit (status : CommitStatus)

/-- An error and, where it has one, the error behind it. -/
def causeChain (error : StoreError) : String :=
  match error with
  | .io e => error.message ++ ": " ++ e.message
  | .json e => error.message ++ ": " ++ e.message
  | _ => error.message

def Failure.message : Failure → String
  | .setting e => e.message
  | .connect remote e => "failed to connect to " ++ remote ++ ": " ++ causeChain e
  | .readTable table e => "failed to read table " ++ table ++ ": " ++ causeChain e
  | .store e => causeChain e
  | .commit status => "transaction failed: " ++ status.message

def Failure.storeError? : Failure → Option StoreError
  | .connect _ e | .readTable _ e | .store e => some e
  | .setting _ | .commit _ => none

def hint? : StoreError → Option String
  | .unreachable .. => some "Hint: Check that ovsdb-server is running and --remote points at it."
  | .schemaMissing _ => some "Hint: Pass the schema file with --schema."
  | .databaseMissing _ => some "Hint: Create the database from the schema with `ovsdb-tool create`."
  | .unknownTable _ => some "Hint: Table names are case-sensitive."
  | _ => none

def Failure.outcome (f : Failure) : Outcome where
  code := 1
  errors := "Error: " ++ f.message ++ "\n" ++
    (((f.storeError?.bind hint?).map fun hint => "\n" ++ hint ++ "\n").getD "")

/-- The row with its id as a column. -/
def rowJson (row : Row) : Json :=
  .ofFields ((KeyMap.single "_uuid" (Json.text row.id)).merge row.fields)

def showRows (format : Format) (rows : List Row) : String :=
  match format with
  | .json => (Json.list (rows.map rowJson)).indented ++ "\n"
  | .grid => if rows.isEmpty then "No rows found.\n" else Grid.render rows ++ "\n"

section

variable {ω : Type} (program : String → Ovsdb.Program ω)

def clientConfig (o : Options) (table : String) : OvsdbConfig where
  remote := o.remote
  database := o.database
  schemaPath := some o.schema
  tables := [table]

def openTable (o : Options) (table : String) (world : ω) :
    Except Failure (Ovsdb.Session ω × TableSnapshot) × ω :=
  let config := clientConfig o table
  match Ovsdb.Session.connect (program config.clientBin) config world with
  | (.error e,world) => (.error (.connect o.remote e),world)
  | (.ok session,_) =>
    match session.run with
    | (.error e,session) => (.error (.readTable table e),session.world)
    | (.ok (),session) =>
      match StoreClient.table session table with
      | .error e => (.error (.store e),session.world)
      | .ok snapshot => (.ok (session,snapshot),session.world)

def updatedMessage (resource : Resource) (name key : String) : String :=
  let row := if resource = .system then "" else name ++ " "
  "Success: " ++ resource.table.name ++ " " ++ row ++ key ++ " updated\n"

def setField (o : Options) (resource : Resource) (name key raw : String) (world : ω) :
    Except Failure String × ω :=
  match Setting.coerce resource key raw with
  | .error e => (.error (.setting e),world)
  | .ok value =>
    match openTable program o resource.table.name world with
    | (.error e,world) => (.error e,world)
    | (.ok (session,snapshot),_) =>
      match StoreClient.commit (Setting.upsert resource name snapshot key value) session with
      | (.error e,session) => (.error (.store e),session.world)
      | (.ok status,session) =>
        (if status.isSuccess then .ok (updatedMessage resource name key) else .error (.commit status),
          session.world)

def perform (o : Options) (world : ω) : Except Failure String × ω :=
  match o.request with
  | .set resource name key value => setField program o resource name key value world
  | .show table =>
    let (result,world) := openTable program o table world
    (result.map fun (_,snapshot) => showRows o.format snapshot.toList,world)

def run (lookup : String → Option String) (args : List String) (world : ω) : Outcome × ω :=
  match Options.read lookup args with
  | .error .misuse => ({code := 2},world)
  | .error .version => ({code := 0, output := "edgectl 0.1.0\n"},world)
  | .error (.help command) => ({code := 0, output := helpText lookup command},world)
  | .ok options =>
    match perform program options world with
    | (.ok output,world) => ({code := 0, output},world)
    | (.error failure,world) => (failure.outcome,world)

end

end Hostkeeper.Operator
