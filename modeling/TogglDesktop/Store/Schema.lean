import TogglDesktop.Store.Table
import TogglDesktop.Model.Related

namespace Kopsik
set_option autoImplicit true

/-! Rows of the tables `initialize_tables` creates, with `Option` for the columns the save
statements can leave NULL. -/

structure UserRow where
  id : Poco.UInt64
  apiToken : String
  defaultWID : Poco.UInt64
  since : Poco.UInt64
  fullname : String
  email : String
  recordTimeline : Bool
  storeStartAndStopTime : Bool
  deriving DecidableEq, Repr

structure WorkspaceRow where
  id : Poco.UInt64
  uid : Poco.UInt64
  name : String
  premium : Bool
  deriving DecidableEq, Repr

structure ClientRow where
  id : Poco.UInt64
  uid : Poco.UInt64
  name : String
  guid : Option String
  wid : Poco.UInt64
  deriving DecidableEq, Repr

structure ProjectRow where
  id : Option Poco.UInt64
  uid : Poco.UInt64
  name : String
  guid : Option String
  color : String
  wid : Poco.UInt64
  cid : Poco.UInt64
  active : Bool
  billable : Bool
  deriving DecidableEq, Repr

structure TaskRow where
  id : Poco.UInt64
  uid : Poco.UInt64
  name : String
  wid : Poco.UInt64
  pid : Poco.UInt64
  deriving DecidableEq, Repr

structure TagRow where
  id : Poco.UInt64
  uid : Poco.UInt64
  name : String
  wid : Poco.UInt64
  guid : Option String
  deriving DecidableEq, Repr

structure TimeEntryRow where
  id : Option Poco.UInt64
  uid : Poco.UInt64
  description : String
  wid : Poco.UInt64
  guid : Option String
  pid : Poco.UInt64
  tid : Poco.UInt64
  billable : Bool
  duronly : Bool
  uiModifiedAt : Poco.UInt64
  start : Poco.UInt64
  stop : Poco.UInt64
  duration : Poco.Int64
  tags : String
  createdWith : String
  deletedAt : Poco.UInt64
  updatedAt : Poco.UInt64
  projectGUID : String
  deriving DecidableEq, Repr

/-- The row type of each kind's table. -/
abbrev Kind.Row : Kind → Type
  | .workspace => WorkspaceRow
  | .client => ClientRow
  | .project => ProjectRow
  | .task => TaskRow
  | .tag => TagRow
  | .timeEntry => TimeEntryRow

/-- The unique indexes on `(uid, id)` and `(uid, guid)`, as the pairs of rows they forbid;
a NULL never equals anything. -/
def Kind.conflict : (k : Kind) → k.Row → k.Row → Bool
  | .workspace, a, b => a.uid == b.uid && a.id == b.id
  | .client, a, b => a.uid == b.uid && (a.id == b.id || (a.guid.isSome && a.guid == b.guid))
  | .project, a, b =>
    a.uid == b.uid && ((a.id.isSome && a.id == b.id) || (a.guid.isSome && a.guid == b.guid))
  | .task, a, b => a.uid == b.uid && a.id == b.id
  | .tag, a, b => a.uid == b.uid && (a.id == b.id || (a.guid.isSome && a.guid == b.guid))
  | .timeEntry, a, b =>
    a.uid == b.uid && ((a.id.isSome && a.id == b.id) || (a.guid.isSome && a.guid == b.guid))

/-- The unique indexes on `users`: `id`, `email` and `api_token`. -/
def UserRow.conflict (a b : UserRow) : Bool :=
  a.id == b.id || a.email == b.email || a.apiToken == b.apiToken

/-- The tables the save and load functions use. -/
inductive TableName
  | users
  | of (k : Kind)
  deriving DecidableEq

abbrev TableName.Row : TableName → Type
  | .users => UserRow
  | .of k => k.Row

def TableName.conflict : (t : TableName) → t.Row → t.Row → Bool
  | .users => UserRow.conflict
  | .of k => k.conflict

/-- The contents of the database file. -/
structure Tables where
  users : Table UserRow := .empty
  workspaces : Table WorkspaceRow := .empty
  clients : Table ClientRow := .empty
  projects : Table ProjectRow := .empty
  tasks : Table TaskRow := .empty
  tags : Table TagRow := .empty
  timeEntries : Table TimeEntryRow := .empty

namespace Tables

def get (db : Tables) : (t : TableName) → Table t.Row
  | .users => db.users
  | .of .workspace => db.workspaces
  | .of .client => db.clients
  | .of .project => db.projects
  | .of .task => db.tasks
  | .of .tag => db.tags
  | .of .timeEntry => db.timeEntries

def set (db : Tables) : (t : TableName) → Table t.Row → Tables
  | .users, x => { db with users := x }
  | .of .workspace, x => { db with workspaces := x }
  | .of .client, x => { db with clients := x }
  | .of .project, x => { db with projects := x }
  | .of .task, x => { db with tasks := x }
  | .of .tag, x => { db with tags := x }
  | .of .timeEntry, x => { db with timeEntries := x }

@[simp] theorem get_set (db : Tables) (t : TableName) (x : Table t.Row) : (db.set t x).get t = x := by
  rcases t with _ | k
  · rfl
  · cases k <;> rfl

@[simp] theorem get_set_ne (db : Tables) {s t : TableName} (h : s ≠ t) (x : Table t.Row) :
    (db.set t x).get s = db.get s := by
  rcases s with _ | j <;> rcases t with _ | k
  · exact absurd rfl h
  · cases k <;> rfl
  · cases j <;> rfl
  · cases j <;> cases k <;> first | rfl | exact absurd rfl h

@[simp] theorem set_get (db : Tables) (t : TableName) : db.set t (db.get t) = db := by
  rcases t with _ | k
  · rfl
  · cases k <;> rfl

end Tables

/-- What `initialize_tables` sees of the file besides the entity tables: whether
`kopsik_migrations` and its unique index on `name` exist, the names that table holds, the
migration statements that have taken effect, and the rows of `timeline_installation`. -/
structure Catalog where
  migrationsTable : Bool := false
  migrationsIndex : Bool := false
  ledger : List String := []
  applied : List String := []
  desktopIDs : List String := []
  deriving DecidableEq, Repr

end Kopsik
