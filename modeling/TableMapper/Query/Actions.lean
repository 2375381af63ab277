import TableMapper.Backend
import TableMapper.Query.Set

/-!
# Actions on records and query sets

What is sent to the backend, and what is made of its answers. Whatever can fail before a statement
is complete fails before anything is sent.
-/

namespace TableMapper

def modelTarget : String := "minorm::model"

def queryTarget : String := "minorm::query"

namespace Model

variable {m : Model}

def savedEvent (m : Model) (id : Int64) : Event :=
  ⟨.debug, modelTarget,
    [("message", "saved instance"), ("model", m.name), ("id", Decimal.intText id.toInt)]⟩

def foundEvent (m : Model) (id : Int64) : Event :=
  ⟨.debug, queryTarget, [("message", "get_or_create: found existing row"), ("model", m.name),
    ("id", Decimal.intText id.toInt)]⟩

def creatingEvent (m : Model) : Event :=
  ⟨.debug, queryTarget, [("message", "get_or_create: creating row"), ("model", m.name)]⟩

def severalEvent (m : Model) (got : Nat) : Event :=
  ⟨.warn, queryTarget,
    [("message", "get() matched more than one row"), ("model", m.name), ("got", toString got)]⟩

def ofRows (m : Model) (rows : List Row) : Except Error (List (Instance m)) := rows.mapM m.ofRow

end Model

namespace Instance

variable {m : Model}

def save (x : Instance m) (dialect : Dialect) : Action (Instance m) :=
  .insert (x.insertSql dialect) fun
    | .ok id => .emit (m.savedEvent id) (.done (.ok (x.setId (some id))))
    | .error e => .done (.error e)

def update (x : Instance m) : Action UInt64 :=
  .given x.updateSql fun sql => .execute sql .done

def delete (x : Instance m) : Action UInt64 :=
  .given x.deleteSql fun sql => .execute sql .done

end Instance

namespace QuerySet

variable {m : Model}

def fetch (q : QuerySet m) (dialect : Dialect) : Action (List (Instance m)) :=
  .fetch (q.sql dialect) fun answer => .done (answer.bind m.ofRows)

def size (q : QuerySet m) (dialect : Dialect) : Action Nat := (q.fetch dialect).map List.length

def count (q : QuerySet m) (dialect : Dialect) : Action Int64 :=
  fetchScalar (countSql (q.sql dialect))

def single (q : QuerySet m) : List (Instance m) → Action (Instance m)
  | [] => Action.fail (.notFound (m.name ++ " matching" ++ q.whereClause))
  | [x] => .done (.ok x)
  | xs => .emit (m.severalEvent xs.length) (Action.fail (.multipleObjects xs.length))

def get (q : QuerySet m) (dialect : Dialect) : Action (Instance m) :=
  (q.fetch dialect).followedBy q.single

def getJson (q : QuerySet m) (dialect : Dialect) : Action String :=
  (q.get dialect).map Instance.json

def json (q : QuerySet m) (dialect : Dialect) : Action String :=
  (q.fetch dialect).map Instance.jsonList

def update (q : QuerySet m) (changes : Record) : Action UInt64 :=
  .given (q.updateSql changes) fun sql => .execute sql .done

def delete (q : QuerySet m) : Action UInt64 :=
  .given q.deleteSql fun sql => .execute sql .done

end QuerySet

namespace Model

variable {m : Model}

def count (m : Model) (dialect : Dialect) : Action Int64 := (QuerySet.all m).count dialect

def get (m : Model) (fs : List Filter) (dialect : Dialect) : Action (Instance m) :=
  ((QuerySet.all m).filterAll fs).get dialect

def getJson (m : Model) (fs : List Filter) (dialect : Dialect) : Action String :=
  ((QuerySet.all m).filterAll fs).getJson dialect

def create (x : Instance m) (dialect : Dialect) : Action (Instance m) := x.save dialect

def createFromRecord (m : Model) (r : Record) (dialect : Dialect) : Action (Instance m) :=
  .given (m.ofRecord r) fun x => create x dialect

def createFromJson (m : Model) (text : String) (dialect : Dialect) : Action (Instance m) :=
  .given (m.ofJson text) fun x => create x dialect

def createMissing (x : Instance m) (dialect : Dialect) : Action (Instance m) :=
  .emit m.creatingEvent (create x dialect)

/-- The stored record with the key of the given one, unchanged; if there is none, or no key, the
given record is inserted. -/
def getOrCreate (x : Instance m) (dialect : Dialect) : Action (Instance m) :=
  match x.id with
  | none => createMissing x dialect
  | some id =>
    (((QuerySet.all m).compare .eq "id" (.int id)).fetch dialect).followedBy fun
      | found :: _ => .emit (m.foundEvent id) (.done (.ok found))
      | [] => createMissing x dialect

def getOrCreateFromRecord (m : Model) (r : Record) (dialect : Dialect) : Action (Instance m) :=
  .given (m.ofRecord r) fun x => getOrCreate x dialect

def getOrCreateFromJson (m : Model) (text : String) (dialect : Dialect) : Action (Instance m) :=
  .given (m.ofJson text) fun x => getOrCreate x dialect

def updateAll (m : Model) (changes : Record) : Action UInt64 := (QuerySet.all m).update changes

def updateInstance (x : Instance m) : Action UInt64 := x.update

/-- Updates the row whose key the JSON object carries, and answers with the record written. -/
def updateFromJson (m : Model) (text : String) : Action (Instance m) :=
  .given (m.ofJson text) fun x => x.update.map fun _ => x

def updateFromJsonAsJson (m : Model) (text : String) : Action String :=
  (m.updateFromJson text).map Instance.json

def deleteWhere (m : Model) (fs : List Filter) : Action UInt64 :=
  ((QuerySet.all m).filterAll fs).delete

def executeQuery (m : Model) (sql : String) : Action (List (Instance m)) :=
  .fetch sql fun answer => .done (answer.bind m.ofRows)

end Model

end TableMapper
