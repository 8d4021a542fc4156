import TogglDesktop.Store.Session

namespace Kopsik
set_option autoImplicit true

/-- The fields of the entities each table stores. -/
abbrev TableName.Data : TableName → Type
  | .users => UserData
  | .of k => k.Data

/-- The `ModelName()` of the entities each table stores. -/
def TableName.modelName : TableName → String
  | .users => User.modelName
  | .of k => k.modelName

/-- An `id` the statements bind only when it is not 0, so a new row's column stays NULL. -/
def idColumn (id : Poco.UInt64) : Option Poco.UInt64 := if id = 0 then none else some id

/-- A `guid` the statements bind only when it is not empty. -/
def guidColumn (guid : String) : Option String := if guid = "" then none else some guid

/-- What one of the save functions does with a model: its `last_error` label, when it returns
at once, whether it calls `EnsureGUID`, the row its insert statement writes, what its update
statement does to the stored row, and the change type and GUID of its records. -/
structure SaveSpec (t : TableName) where
  wasDoing : String
  skips : Entity t.Data → Bool
  ensuresGUID : Bool
  insertRow : Entity t.Data → t.Row
  updateRow : Entity t.Data → t.Row → t.Row
  updateChange : Entity t.Data → String
  changeGUID : Entity t.Data → String

/-- The test `saveWorkspace`, `saveClient`, `saveTask` and `saveTag` return on. -/
def cleanAndStored (model : Entity D) : Bool := model.base.localID ≠ 0 && !model.base.dirty

/-- The test `saveProject` and `saveTimeEntry` return on. -/
def savedAlready (model : Entity D) : Bool := !model.needsToBeSaved

theorem savedAlready_eq_cleanAndStored (model : Entity D) :
    savedAlready model = cleanAndStored model := by
  unfold savedAlready cleanAndStored Entity.needsToBeSaved
  cases model.base.dirty <;> simp

def workspaceRow (model : Workspace) : WorkspaceRow :=
  ⟨model.base.id, model.base.uid, model.data.name, model.data.premium⟩

def clientRow (model : Client) : ClientRow :=
  ⟨model.base.id, model.base.uid, model.data.name, guidColumn model.base.guid, model.data.wid⟩

def projectRow (model : Project) : ProjectRow :=
  ⟨idColumn model.base.id, model.base.uid, model.data.name, guidColumn model.base.guid,
    model.data.color, model.data.wid, model.data.cid, model.data.active, model.data.billable⟩

def taskRow (model : Task) : TaskRow :=
  ⟨model.base.id, model.base.uid, model.data.name, model.data.wid, model.data.pid⟩

def tagRow (model : Tag) : TagRow :=
  ⟨model.base.id, model.base.uid, model.data.name, model.data.wid, guidColumn model.base.guid⟩

def timeEntryRow (model : TimeEntry) : TimeEntryRow :=
  ⟨idColumn model.base.id, model.base.uid, model.data.description, model.data.wid,
    some model.base.guid, model.data.pid, model.data.tid, model.data.billable,
    model.data.duronly, model.data.uiModifiedAt, model.data.start, model.data.stop,
    model.data.durationInSeconds, model.tags, model.data.createdWith, model.base.deletedAt,
    model.base.updatedAt, model.data.projectGUID⟩

def userRow (model : User) : UserRow :=
  ⟨model.base.id, model.data.apiToken, model.data.defaultWID, model.data.since,
    model.data.fullname, model.data.email, model.data.recordTimeline,
    model.data.storeStartAndStopTime⟩

/-- `saveWorkspace`: every column on insert and on update; records carry no GUID. -/
def workspaceSpec : SaveSpec (.of .workspace) where
  wasDoing := "saveWorkspace"
  skips := cleanAndStored
  ensuresGUID := false
  insertRow := workspaceRow
  updateRow model _ := workspaceRow model
  updateChange _ := "update"
  changeGUID _ := ""

/-- `saveClient`: the `guid` column is left out when the GUID is empty. -/
def clientSpec : SaveSpec (.of .client) where
  wasDoing := "saveClient"
  skips := cleanAndStored
  ensuresGUID := false
  insertRow := clientRow
  updateRow model old :=
    { clientRow model with guid := if model.base.guid = "" then old.guid else some model.base.guid }
  updateChange _ := "update"
  changeGUID model := model.base.guid

/-- `saveProject`: `EnsureGUID` first; `id` left out when 0 and `guid` when empty. -/
def projectSpec : SaveSpec (.of .project) where
  wasDoing := "saveProject"
  skips := savedAlready
  ensuresGUID := true
  insertRow := projectRow
  updateRow model old :=
    { projectRow model with
      id := if model.base.id = 0 then old.id else some model.base.id
      guid := if model.base.guid = "" then old.guid else some model.base.guid }
  updateChange _ := "update"
  changeGUID model := model.base.guid

/-- `saveTask`: every column; records carry no GUID. -/
def taskSpec : SaveSpec (.of .task) where
  wasDoing := "saveTask"
  skips := cleanAndStored
  ensuresGUID := false
  insertRow := taskRow
  updateRow model _ := taskRow model
  updateChange _ := "update"
  changeGUID _ := ""

/-- `saveTag`: the `guid` column is left out when the GUID is empty. -/
def tagSpec : SaveSpec (.of .tag) where
  wasDoing := "saveTag"
  skips := cleanAndStored
  ensuresGUID := false
  insertRow := tagRow
  updateRow model old :=
    { tagRow model with guid := if model.base.guid = "" then old.guid else some model.base.guid }
  updateChange _ := "update"
  changeGUID model := model.base.guid

/-- `saveTimeEntry`: `EnsureGUID` first; `id` left out when 0; an update of an entry with
`DeletedAt` set is recorded as a delete. -/
def timeEntrySpec : SaveSpec (.of .timeEntry) where
  wasDoing := "saveTimeEntry"
  skips := savedAlready
  ensuresGUID := true
  insertRow := timeEntryRow
  updateRow model old :=
    { timeEntryRow model with id := if model.base.id = 0 then old.id else some model.base.id }
  updateChange model := if model.base.deletedAt ≠ 0 then "delete" else "update"
  changeGUID model := model.base.guid

/-- The user row part of `SaveUser`: every column; records carry no GUID. -/
def userSpec : SaveSpec .users where
  wasDoing := "SaveUser"
  skips := cleanAndStored
  ensuresGUID := false
  insertRow := userRow
  updateRow model _ := userRow model
  updateChange _ := "update"
  changeGUID _ := ""

/-- `EnsureGUID`: a UUID is drawn only when the GUID is empty. -/
def ensureModelGUID (model : Entity D) : DB (Entity D) :=
  if model.base.guid = "" then do return model.ensureGUID (← generateGUID) else pure model

/-- The `try` block of the save functions: the update or the insert statement and its change
record; the model comes back clean, and with its new `local_id` after an insert. -/
def writeModel (s : SaveSpec t) (model : Entity t.Data) : DB (error × Entity t.Data) :=
  if model.base.localID ≠ 0 then do
    updateWhere t model.base.localID (s.updateRow model)
    let err ← lastError s.wasDoing
    if err ≠ noError then return (err, model) else
    pushChange t.modelName (s.updateChange model) model.base.id (s.changeGUID model)
    return (noError, model.clearDirty)
  else do
    insertInto t (s.insertRow model)
    let err ← lastError s.wasDoing
    if err ≠ noError then return (err, model) else
    let localID ← selectLastInsertRowid
    let err ← lastError s.wasDoing
    if err ≠ noError then return (err, model) else
    let model := model.setLocalID localID
    pushChange t.modelName "insert" model.base.id (s.changeGUID model)
    return (noError, model.clearDirty)

/-- `saveWorkspace` .. `saveTimeEntry`: the early return, `EnsureGUID`, and the `try` block,
whose exceptions come back as their `displayText`. -/
def saveModel (s : SaveSpec t) (model : Entity t.Data) : DB (error × Entity t.Data) :=
  if s.skips model then pure (noError, model) else do
    let model ← if s.ensuresGUID then ensureModelGUID model else pure model
    tryCatch (writeModel s model) fun exc => pure (exc.displayText, model)

def saveWorkspace := saveModel workspaceSpec
def saveClient := saveModel clientSpec
def saveProject := saveModel projectSpec
def saveTask := saveModel taskSpec
def saveTag := saveModel tagSpec
def saveTimeEntry := saveModel timeEntrySpec

/-- `poco_assert`: a false condition raises `AssertionViolationException`. -/
def pocoAssert (cond : Bool) (what : String) : DB Unit :=
  if cond then pure () else throw (.assertion what)

/-- The loop of `saveWorkspaces`, `saveClients`, `saveTasks` and `saveTags`: each model gets
the user's ID and is saved, and the first error ends the loop. -/
def saveList (save : Entity D → DB (error × Entity D)) (uid : Poco.UInt64) :
    List (Entity D) → DB (error × List (Entity D))
  | [] => pure (noError, [])
  | model :: rest => do
    let (err, model) ← save (model.setUID uid)
    if err ≠ noError then return (err, model :: rest) else
    let (err, rest) ← saveList save uid rest
    return (err, model :: rest)

/-- `Database::deleteFromTable`; its `poco_assert(local_id)` stands outside the `try`. -/
def deleteFromTable (t : TableName) (localID : Poco.Int64) : DB error := do
  pocoAssert (localID ≠ 0) "local_id"
  tryCatch (do deleteWhere t localID; lastError "deleteFromTable")
    fun exc => pure exc.displayText

/-- The first loop of `saveProjects` and `saveTimeEntries`: a model marked as deleted on the
server loses its row and gets a `delete` record, any other is saved as in `saveList`. -/
def saveListDeleting (t : TableName) (save : Entity t.Data → DB (error × Entity t.Data))
    (uid : Poco.UInt64) : List (Entity t.Data) → DB (error × List (Entity t.Data))
  | [] => pure (noError, [])
  | model :: rest =>
    if model.base.isMarkedAsDeletedOnServer then do
      let err ← deleteFromTable t model.base.localID
      if err ≠ noError then return (err, model :: rest) else
      pushChange t.modelName "delete" model.base.id model.base.guid
      let (err, rest) ← saveListDeleting t save uid rest
      return (err, model :: rest)
    else do
      let (err, model) ← save (model.setUID uid)
      if err ≠ noError then return (err, model :: rest) else
      let (err, rest) ← saveListDeleting t save uid rest
      return (err, model :: rest)

/-- `saveProjects` and `saveTimeEntries`: the loop, then the purge of the models marked as
deleted on the server from the collection. -/
def savePurging (t : TableName) (save : Entity t.Data → DB (error × Entity t.Data))
    (uid : Poco.UInt64) (list : List (Entity t.Data)) : DB (error × List (Entity t.Data)) := do
  pocoAssert (uid ≠ 0) "UID > 0"
  let (err, list) ← saveListDeleting t save uid list
  if err ≠ noError then return (err, list) else
  return (noError, list.filter fun model => !model.base.isMarkedAsDeletedOnServer)

def saveWorkspaces (uid : Poco.UInt64) (list : List Workspace) : DB (error × List Workspace) := do
  pocoAssert (uid ≠ 0) "UID > 0"
  saveList saveWorkspace uid list

def saveClients (uid : Poco.UInt64) (list : List Client) : DB (error × List Client) := do
  pocoAssert (uid ≠ 0) "UID > 0"
  saveList saveClient uid list

def saveProjects := savePurging (.of .project) saveProject

def saveTasks (uid : Poco.UInt64) (list : List Task) : DB (error × List Task) := do
  pocoAssert (uid ≠ 0) "UID > 0"
  saveList saveTask uid list

def saveTags (uid : Poco.UInt64) (list : List Tag) : DB (error × List Tag) := do
  pocoAssert (uid ≠ 0) "UID > 0"
  saveList saveTag uid list

def saveTimeEntries := savePurging (.of .timeEntry) saveTimeEntry

/-- The save function of each kind's collection. -/
def saveKind (uid : Poco.UInt64) : (k : Kind) → List (Entity k.Data) → DB (error × List (Entity k.Data))
  | .workspace => saveWorkspaces uid
  | .client => saveClients uid
  | .project => saveProjects uid
  | .task => saveTasks uid
  | .tag => saveTags uid
  | .timeEntry => saveTimeEntries uid

/-- The order `SaveUser` saves the collections in. -/
def relatedKinds : List Kind := [.workspace, .client, .project, .task, .tag, .timeEntry]

/-- The `with_related_data` part of `SaveUser`: the collections in turn, each error rolled back
and returned. -/
def saveRelated (uid : Poco.UInt64) : List Kind → RelatedData → DB (error × RelatedData)
  | [], related => pure (noError, related)
  | k :: ks, related => do
    let (err, list) ← saveKind uid k (related.get k)
    let related := related.set k list
    if err ≠ noError then do rollback; return (err, related) else
    saveRelated uid ks related

/-- The user row part of `SaveUser`: written only when the user is new or dirty, inside a
`try` that rolls every error back. -/
def saveUserRow (model : User) : DB (error × User) :=
  if model.base.localID = 0 || model.base.dirty then
    tryCatch
      (do
        let (err, model) ← writeModel userSpec model
        if err ≠ noError then do rollback; return (err, model) else
        return (noError, model))
      fun exc => do rollback; return (exc.displayText, model)
  else pure (noError, model)

/-- The `with_related_data` part of `SaveUser`. -/
def saveUserRelated (withRelatedData : Bool) (model : User) : DB (error × User) :=
  if withRelatedData then do
    let (err, related) ← saveRelated model.base.id relatedKinds model.data.related
    return (err, { model with data := { model.data with related := related } })
  else pure (noError, model)

/-- `Database::SaveUser` on a logged-in user. -/
def saveUser (model : User) (withRelatedData : Bool) : DB (error × User) :=
  if model.data.email = "" then pure ("Missing user e-mail, cannot save user", model) else
  if model.data.apiToken = "" then pure ("Missing user API token, cannot save user", model) else
  if model.base.id = 0 then pure ("Missing user ID, cannot save user", model) else do
  begin
  let (err, model) ← saveUserRow model
  if err ≠ noError then return (err, model) else
  let (err, model) ← saveUserRelated withRelatedData model
  if err ≠ noError then return (err, model) else
  commit
  return (noError, model)

end Kopsik
