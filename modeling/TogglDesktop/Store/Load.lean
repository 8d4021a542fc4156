import TogglDesktop.Store.Spec
import Mathlib.Data.List.Sort

namespace Kopsik
set_option autoImplicit true

/-! The load side of `Database`: `LoadUserByID` and the six collection loaders. Each loader
selects its rows by `uid`, reads every row into a new model through the model's setters, and
clears the model's dirty flag. The loaders read each unsigned column with
`convert<Poco::UInt64>()`, which checks the sign of the stored integer; `LoadUserByID` reads the
user row with `into()`, which does not. -/

/-- `rs[i].convert<T>()` on a column that a save statement may leave NULL: a NULL column
holds an empty `Poco::Dynamic::Var`, and converting that raises `InvalidAccessException`. -/
def convert : Option α → Except Exception α
  | some v => .ok v
  | none => .error (.invalidAccess "Can not convert empty value.")

/-- `rs[i].convert<Poco::UInt64>()` on an integer column: SQLite hands back the signed 64-bit
integer the statement bound, and converting a negative one to an unsigned type raises
`RangeException`. -/
def convertUInt64 (v : Poco.Int64) : Except Exception Poco.UInt64 :=
  if v.toInt < 0 then .error (.range "Value too small.") else .ok v

/-- An unsigned value that `convert<Poco::UInt64>()` reads back: the signed integer SQLite
stores for its bits is not negative. -/
def fitsInt64 (v : Poco.UInt64) : Bool := decide (0 ≤ v.toInt)

theorem fitsInt64_iff (v : Poco.UInt64) : fitsInt64 v = true ↔ v.toNat < 2 ^ 63 := by
  rw [fitsInt64, decide_eq_true_iff, BitVec.toInt_eq_toNat_cond]
  have := v.isLt
  split_ifs <;> omega

@[simp] theorem convert_eq_ok_iff : convert o = .ok a ↔ o = some a := by
  cases o <;> simp [convert, eq_comm]

theorem convert_eq_error (h : convert o = .error e) :
    o = none ∧ e = .invalidAccess "Can not convert empty value." := by
  cases o <;> cases h; exact ⟨rfl, rfl⟩

@[simp] theorem convertUInt64_eq_ok_iff : convertUInt64 v = .ok a ↔ fitsInt64 v = true ∧ a = v := by
  unfold convertUInt64 fitsInt64
  split_ifs with h <;> simp [h, not_lt.1, le_of_not_lt, eq_comm]

theorem convertUInt64_eq_error (h : convertUInt64 v = .error e) :
    fitsInt64 v = false ∧ e = .range "Value too small." := by
  unfold convertUInt64 at h
  split_ifs at h with hv
  cases h
  exact ⟨by simpa [fitsInt64] using hv, rfl⟩

theorem convertUInt64_of_fits (h : fitsInt64 v = true) : convertUInt64 v = .ok v :=
  if_neg (not_lt.2 (of_decide_eq_true h))

theorem convertUInt64_of_not_fits (h : fitsInt64 v = false) :
    convertUInt64 v = .error (.range "Value too small.") :=
  if_pos (not_le.1 (of_decide_eq_false h))

/-- `SELECT .. WHERE uid = :uid ORDER BY ..`: the rows the filter keeps, in the statement's
order; SQLite leaves the order of ties open, and they keep their rowid order here. -/
def selectRows (tab : Table R) (keep : R → Bool) (before : R → R → Bool) :
    List (Poco.Int64 × R) :=
  (tab.rows.filter fun p => keep p.2).insertionSort fun p q => before p.2 q.2

/-- The `while (more)` loop: each row read into a new model and pushed; a conversion that
raises ends it with the models pushed so far. -/
def readRows (read : Poco.Int64 → R → Except Exception (Entity D)) :
    List (Poco.Int64 × R) → List (Entity D) × Option Exception
  | [] => ([], none)
  | (localID, row) :: rows =>
    match read localID row with
    | .error exc => ([], some exc)
    | .ok model => let (list, exc) := readRows read rows; (model :: list, exc)

theorem readRows_snd_eq_none (read : Poco.Int64 → R → Except Exception (Entity D)) :
    ∀ rows, (readRows read rows).2 = none ↔ ∀ p ∈ rows, ∃ m, read p.1 p.2 = .ok m
  | [] => by simp [readRows]
  | (localID, row) :: rows => by
    rw [readRows]
    cases h : read localID row with
    | error e => simp [h]
    | ok m => simp [h, readRows_snd_eq_none read rows]

theorem readRows_snd_eq_some (read : Poco.Int64 → R → Except Exception (Entity D)) :
    ∀ rows, (readRows read rows).2 = some e → ∃ p ∈ rows, read p.1 p.2 = .error e
  | [] => by simp [readRows]
  | (localID, row) :: rows => by
    rw [readRows]
    cases h : read localID row with
    | error e' => intro he; cases he; exact ⟨_, List.mem_cons_self _ _, h⟩
    | ok m =>
      intro he
      obtain ⟨p, hp, hr⟩ := readRows_snd_eq_some read rows he
      exact ⟨p, List.mem_cons_of_mem _ hp, hr⟩

theorem readRows_of_ok (read : Poco.Int64 → R → Except Exception (Entity D))
    (f : Poco.Int64 × R → Entity D) :
    ∀ rows, (∀ p ∈ rows, read p.1 p.2 = .ok (f p)) → readRows read rows = (rows.map f, none)
  | [], _ => rfl
  | (localID, row) :: rows, h => by
    simp only [List.mem_cons, forall_eq_or_imp] at h
    rw [readRows, h.1, readRows_of_ok read f rows h.2]
    rfl

/-- The loop body of `loadWorkspaces`. -/
def readWorkspace (localID : Poco.Int64) (row : WorkspaceRow) : Except Exception Workspace := do
  let model : Workspace := { data := {} }
  let model := model.setLocalID localID
  let model := model.setID (← convertUInt64 row.id)
  let model := model.setUID (← convertUInt64 row.uid)
  let model := Workspace.setName model row.name
  let model := Workspace.setPremium model row.premium
  return model.clearDirty

/-- The loop body of `loadClients`. -/
def readClient (localID : Poco.Int64) (row : ClientRow) : Except Exception Client := do
  let model : Client := { data := {} }
  let model := model.setLocalID localID
  let model := model.setID (← convertUInt64 row.id)
  let model := model.setUID (← convertUInt64 row.uid)
  let model := Client.setName model row.name
  let model := model.setGUID (← convert row.guid)
  let model := Client.setWID model (← convertUInt64 row.wid)
  return model.clearDirty

/-- The loop body of `loadProjects`; the `billable` column is not among those it selects. -/
def readProject (localID : Poco.Int64) (row : ProjectRow) : Except Exception Project := do
  let model : Project := { data := {} }
  let model := model.setLocalID localID
  let model := model.setID (← convertUInt64 (← convert row.id))
  let model := model.setUID (← convertUInt64 row.uid)
  let model := Project.setName model row.name
  let model := model.setGUID (← convert row.guid)
  let model := Project.setWID model (← convertUInt64 row.wid)
  let model := Project.setColor model row.color
  let model := Project.setCID model (← convertUInt64 row.cid)
  let model := Project.setActive model row.active
  return model.clearDirty

/-- The loop body of `loadTasks`. -/
def readTask (localID : Poco.Int64) (row : TaskRow) : Except Exception Task := do
  let model : Task := { data := {} }
  let model := model.setLocalID localID
  let model := model.setID (← convertUInt64 row.id)
  let model := model.setUID (← convertUInt64 row.uid)
  let model := Task.setName model row.name
  let model := Task.setWID model (← convertUInt64 row.wid)
  let model := Task.setPID model (← convertUInt64 row.pid)
  return model.clearDirty

/-- The loop body of `loadTags`. -/
def readTag (localID : Poco.Int64) (row : TagRow) : Except Exception Tag := do
  let model : Tag := { data := {} }
  let model := model.setLocalID localID
  let model := model.setID (← convertUInt64 row.id)
  let model := model.setUID (← convertUInt64 row.uid)
  let model := Tag.setName model row.name
  let model := Tag.setWID model (← convertUInt64 row.wid)
  let model := model.setGUID (← convert row.guid)
  return model.clearDirty

/-- The loop body of `loadTimeEntriesFromSQLStatement`. -/
def readTimeEntry (localID : Poco.Int64) (row : TimeEntryRow) : Except Exception TimeEntry := do
  let model : TimeEntry := { data := {} }
  let model := model.setLocalID localID
  let model := model.setID (← convertUInt64 (← convert row.id))
  let model := model.setUID (← convertUInt64 row.uid)
  let model := TimeEntry.setDescription model row.description
  let model := TimeEntry.setWID model (← convertUInt64 row.wid)
  let model := model.setGUID (← convert row.guid)
  let model := TimeEntry.setPID model (← convertUInt64 row.pid)
  let model := TimeEntry.setTID model (← convertUInt64 row.tid)
  let model := TimeEntry.setBillable model row.billable
  let model := TimeEntry.setDurOnly model row.duronly
  let model := TimeEntry.setUIModifiedAt model (← convertUInt64 row.uiModifiedAt)
  let model := TimeEntry.setStart model (← convertUInt64 row.start)
  let model := TimeEntry.setStop model (← convertUInt64 row.stop)
  let model := TimeEntry.setDurationInSeconds model row.duration
  let model := TimeEntry.setTags model row.tags
  let model := TimeEntry.setCreatedWith model row.createdWith
  let model := model.setDeletedAt (← convertUInt64 row.deletedAt)
  let model := model.setUpdatedAt (← convertUInt64 row.updatedAt)
  let model := TimeEntry.setProjectGUID model row.projectGUID
  return model.clearDirty

/-- `loadWorkspaces`, `loadClients`, `loadProjects`, `loadTasks` and `loadTags`: the
assertion, `last_error` before the statement runs, the statement, the loop, and `last_error`
once more; an exception from the statement comes back as its `displayText`. -/
def loadModels (wasDoing : String) (k : Kind) (uidOf : k.Row → Poco.UInt64)
    (nameOf : k.Row → String) (read : Poco.Int64 → k.Row → Except Exception (Entity k.Data))
    (UID : Poco.UInt64) : DB (error × List (Entity k.Data)) := do
  pocoAssert (UID ≠ 0) "UID > 0"
  let (ret, list) ← tryCatch
    (do
      let err ← lastError wasDoing
      if err ≠ noError then return (some err, []) else
      sqlCall
      let rows := selectRows ((← get).tables.get (.of k)) (uidOf · = UID)
        fun p q => nameOf p ≤ nameOf q
      match readRows read rows with
      | (list, some exc) => return (some exc.displayText, list)
      | (list, none) => return (none, list))
    fun exc => pure (some exc.displayText, [])
  match ret with
  | some err => return (err, list)
  | none => return (← lastError wasDoing, list)

def loadWorkspaces := loadModels "loadWorkspaces" .workspace (·.uid) (·.name) readWorkspace
def loadClients := loadModels "loadClients" .client (·.uid) (·.name) readClient
def loadProjects := loadModels "loadProjects" .project (·.uid) (·.name) readProject
def loadTasks := loadModels "loadTasks" .task (·.uid) (·.name) readTask
def loadTags := loadModels "loadTags" .tag (·.uid) (·.name) readTag

/-- `loadTimeEntriesFromSQLStatement`: it runs the statement it is handed and, unlike the other
loaders, returns `noError` after its loop. -/
def loadTimeEntriesFromSQLStatement (select : DB (List (Poco.Int64 × TimeEntryRow))) :
    DB (error × List TimeEntry) := do
  let (ret, list) ← tryCatch
    (do
      let rows ← select
      match readRows readTimeEntry rows with
      | (list, some exc) => return (some exc.displayText, list)
      | (list, none) => return (none, list))
    fun exc => pure (some exc.displayText, [])
  match ret with
  | some err => return (err, list)
  | none => return (noError, list)

/-- `loadTimeEntries`: newest start first; SQLite compares the `start` column as the signed
integer Poco bound. Its trailing `last_error` is unreachable: the `try` block returns. -/
def loadTimeEntries (UID : Poco.UInt64) : DB (error × List TimeEntry) := do
  pocoAssert (UID ≠ 0) "UID > 0"
  tryCatch
    (do
      let err ← lastError "loadTimeEntries"
      if err ≠ noError then return (err, []) else
      loadTimeEntriesFromSQLStatement do
        sqlCall
        return selectRows (← get).tables.timeEntries (·.uid = UID)
          fun p q => q.start.toInt ≤ p.start.toInt)
    fun exc => pure (exc.displayText, [])

/-- The loader of each kind's collection. -/
def loadKind (UID : Poco.UInt64) : (k : Kind) → DB (error × List (Entity k.Data))
  | .workspace => loadWorkspaces UID
  | .client => loadClients UID
  | .project => loadProjects UID
  | .task => loadTasks UID
  | .tag => loadTags UID
  | .timeEntry => loadTimeEntries UID

/-- The loaders `loadUsersRelatedData` calls, in its order, each result stored in the user's
collection and the first error returned. -/
def loadRelated (UID : Poco.UInt64) : List Kind → RelatedData → DB (error × RelatedData)
  | [], related => pure (noError, related)
  | k :: ks, related => do
    let (err, list) ← loadKind UID k
    let related := related.set k list
    if err ≠ noError then return (err, related) else
    loadRelated UID ks related

/-- `Database::loadUsersRelatedData`. -/
def loadUsersRelatedData (user : User) : DB (error × User) := do
  let (err, related) ← loadRelated user.base.id relatedKinds user.data.related
  return (err, { user with data := { user.data with related := related } })

/-- The setters `LoadUserByID` calls with the columns of the user row. -/
def loadUserRow (user : User) (localID : Poco.Int64) (row : UserRow) : User :=
  let user := user.setLocalID localID
  let user := user.setID row.id
  let user := User.setAPIToken user row.apiToken
  let user := User.setDefaultWID user row.defaultWID
  let user := User.setSince user row.since
  let user := User.setFullname user row.fullname
  let user := User.setEmail user row.email
  let user := User.setRecordTimeline user row.recordTimeline
  User.setStoreStartAndStopTime user row.storeStartAndStopTime

/-- `Database::LoadUserByID`: the first row of the user's ID, read into `user`; with no such
row it returns `noError` and leaves `user` as it was. -/
def loadUserByID (UID : Poco.UInt64) (user : User) (withRelatedData : Bool) :
    DB (error × User) := do
  pocoAssert (UID ≠ 0) "UID > 0"
  let (ret, user) ← tryCatch
    (do
      sqlCall
      let row := (← get).tables.users.rows.find? (·.2.id = UID)
      let err ← lastError "LoadUserByID"
      if err ≠ noError then return (some err, user) else
      match row with
      | some (localID, row) =>
        if row.id = 0 then return (some noError, user) else
        return (none, loadUserRow user localID row)
      | none => return (some noError, user))
    fun exc => pure (some exc.displayText, user)
  match ret with
  | some err => return (err, user)
  | none =>
    if withRelatedData then do
      let (err, user) ← loadUsersRelatedData user
      if err ≠ noError then return (err, user) else
      return (noError, user)
    else return (noError, user)

/-! What the loaders return on a store whose SQLite calls all pass. -/

/-- A world whose coming SQLite calls all pass and whose last call passed. -/
def World.Quiet (w : World) : Prop := w.faults = [] ∧ w.lastMessage = "not an error"

section Quiet

variable {w : World} {E : Exception → World → Prop}

theorem World.Quiet.pass (h : w.Quiet) : w.pass = w := by
  obtain ⟨hf, hm⟩ := h
  cases w
  simp_all [World.pass]

theorem wp_sqlCall_of_quiet {Q : PUnit → World → Prop} (h : w.Quiet) (hQ : Q () w) :
    wp sqlCall Q E w := by
  rw [wp_sqlCall, h.1, World.Quiet.pass h]
  exact hQ

/-- What a loader returns after its loop: the text of the exception that ended the loop, or
`noError`. -/
def loopResult : List (Entity D) × Option Exception → error × List (Entity D)
  | (list, some exc) => (exc.displayText, list)
  | (list, none) => (noError, list)

theorem loadModels_spec (wasDoing : String) (k : Kind) (uidOf : k.Row → Poco.UInt64)
    (nameOf : k.Row → String) (read : Poco.Int64 → k.Row → Except Exception (Entity k.Data))
    (hu : UID ≠ 0) (hq : w.Quiet) :
    wp (loadModels wasDoing k uidOf nameOf read UID)
      (fun r w' => w' = w ∧ r = loopResult (readRows read
        (selectRows (w.tables.get (.of k)) (uidOf · = UID) fun p q => nameOf p ≤ nameOf q)))
      (fun _ _ => False) w := by
  simp only [loadModels, pocoAssert, hu, ne_eq, not_false_eq_true, decide_True, ↓reduceIte,
    wp_bind, wp_pure, wp_tryCatch, wp_lastError, hq.2, not_true_eq_false]
  refine wp_sqlCall_of_quiet hq ?_
  simp only [wp_bind, wp_get]
  rcases readRows read _ with ⟨list, _ | exc⟩
  · simp [hq.2, loopResult]
  · simp [loopResult]

theorem loadTimeEntries_spec (hu : UID ≠ 0) (hq : w.Quiet) :
    wp (loadTimeEntries UID)
      (fun r w' => w' = w ∧ r = loopResult (readRows readTimeEntry
        (selectRows w.tables.timeEntries (·.uid = UID) fun p q => q.start.toInt ≤ p.start.toInt)))
      (fun _ _ => False) w := by
  simp only [loadTimeEntries, loadTimeEntriesFromSQLStatement, pocoAssert, hu, ne_eq,
    not_false_eq_true, decide_True, ↓reduceIte, wp_bind, wp_pure, wp_tryCatch, wp_lastError, hq.2,
    not_true_eq_false]
  refine wp_sqlCall_of_quiet hq ?_
  simp only [wp_bind, wp_get, wp_pure]
  rcases readRows readTimeEntry _ with ⟨list, _ | exc⟩
  · simp [loopResult]
  · simp [loopResult]

/-- The loop body of each kind's loader. -/
def Kind.read : (k : Kind) → Poco.Int64 → k.Row → Except Exception (Entity k.Data)
  | .workspace => readWorkspace
  | .client => readClient
  | .project => readProject
  | .task => readTask
  | .tag => readTag
  | .timeEntry => readTimeEntry

/-- The `uid` column of each kind's rows. -/
def Kind.rowUID : (k : Kind) → k.Row → Poco.UInt64
  | .workspace => (·.uid)
  | .client => (·.uid)
  | .project => (·.uid)
  | .task => (·.uid)
  | .tag => (·.uid)
  | .timeEntry => (·.uid)

/-- The `ORDER BY` of each kind's loader. -/
def Kind.before : (k : Kind) → k.Row → k.Row → Bool
  | .workspace => fun p q => p.name ≤ q.name
  | .client => fun p q => p.name ≤ q.name
  | .project => fun p q => p.name ≤ q.name
  | .task => fun p q => p.name ≤ q.name
  | .tag => fun p q => p.name ≤ q.name
  | .timeEntry => fun p q => q.start.toInt ≤ p.start.toInt

/-- The rows each kind's loader reads for the user `UID`, in the loader's order. -/
def Kind.select (UID : Poco.UInt64) (k : Kind) (tab : Table k.Row) : List (Poco.Int64 × k.Row) :=
  selectRows tab (k.rowUID · = UID) k.before

/-- What the loader of kind `k` reads from the world `w`. -/
def Kind.loaded (k : Kind) (UID : Poco.UInt64) (w : World) :
    List (Entity k.Data) × Option Exception :=
  readRows k.read (k.select UID (w.tables.get (.of k)))

theorem loadKind_spec (k : Kind) (hu : UID ≠ 0) (hq : w.Quiet) :
    wp (loadKind UID k) (fun r w' => w' = w ∧ r = loopResult (k.loaded UID w))
      (fun _ _ => False) w := by
  cases k
  · exact loadModels_spec _ .workspace _ _ _ hu hq
  · exact loadModels_spec _ .client _ _ _ hu hq
  · exact loadModels_spec _ .project _ _ _ hu hq
  · exact loadModels_spec _ .task _ _ _ hu hq
  · exact loadModels_spec _ .tag _ _ _ hu hq
  · exact loadTimeEntries_spec hu hq

/-- The error `loadUsersRelatedData` returns: that of the first loader of `ks` whose loop
raised, or `noError`. -/
def firstError (UID : Poco.UInt64) (w : World) : List Kind → error
  | [] => noError
  | k :: ks =>
    match (k.loaded UID w).2 with
    | some exc => exc.displayText
    | none => firstError UID w ks

/-- The loaders of `ks` return the error of the first loop that raised; when none did, they
fill in those collections and leave the others. -/
theorem loadRelated_spec (hu : UID ≠ 0) (hq : w.Quiet) :
    ∀ (ks : List Kind) (r : RelatedData), wp (loadRelated UID ks r)
      (fun res w' => w' = w ∧ res.1 = firstError UID w ks ∧ (res.1 = noError →
        ∀ k, res.2.get k = if k ∈ ks then (k.loaded UID w).1 else r.get k))
      (fun _ _ => False) w
  | [], r => ⟨rfl, rfl, fun _ k => by simp⟩
  | k :: ks, r => by
    simp only [loadRelated, wp_bind]
    refine wp_mono ?_ (fun _ _ h => h) (loadKind_spec k hu hq)
    rintro _ w₁ ⟨hw, rfl⟩
    subst w₁
    rcases h : k.loaded UID w with ⟨list, _ | exc⟩
    · simp only [loopResult, ne_eq, not_true_eq_false, ↓reduceIte]
      refine wp_mono ?_ (fun _ _ h => h) (loadRelated_spec hu hq ks (r.set k list))
      rintro res w₂ ⟨hw, he, hget⟩
      subst w₂
      refine ⟨rfl, by rw [he, firstError, h], fun hn j => ?_⟩
      rw [hget hn j]
      by_cases hj : j = k
      · subst hj
        split_ifs <;> simp_all
      · simp [hj]
    · simp only [loopResult]
      rw [if_pos exc.displayText_ne_noError]
      exact ⟨rfl, by rw [firstError, h], fun hn => absurd hn exc.displayText_ne_noError⟩

@[simp] theorem firstError_pass (ks : List Kind) : firstError UID w.pass ks = firstError UID w ks := by
  induction ks with
  | nil => rfl
  | cons k ks ih => simp only [firstError, ih]; rfl

@[simp] theorem loadUserRow_userRow (user : User) (localID : Poco.Int64) (row : UserRow) :
    userRow (loadUserRow user localID row) = row := by
  simp (disch := rfl) only [loadUserRow, userRow, User.setAPIToken, User.setDefaultWID,
    User.setSince, User.setFullname, User.setEmail, User.setRecordTimeline,
    User.setStoreStartAndStopTime, Entity.setDataField, Entity.setID, Entity.setField_eq_assign]

@[simp] theorem loadUserRow_localID (user : User) (localID : Poco.Int64) (row : UserRow) :
    (loadUserRow user localID row).base.localID = localID := by
  simp (disch := rfl) only [loadUserRow, User.setAPIToken, User.setDefaultWID,
    User.setSince, User.setFullname, User.setEmail, User.setRecordTimeline,
    User.setStoreStartAndStopTime, Entity.setDataField, Entity.setID, Entity.setField_eq_assign,
    Entity.setLocalID]

/-- `LoadUserByID` with related data on a store whose SQLite calls pass and whose first row of
the user's ID is `(localID, row)`: the user gets that row's columns, and the call returns the
error of the first loader whose loop raised, or `noError` with every collection as read. -/
theorem loadUserByID_spec (user : User) (hu : UID ≠ 0) (hf : w.faults = [])
    (hrow : w.tables.users.rows.find? (·.2.id = UID) = some (localID, row)) :
    wp (loadUserByID UID user true)
      (fun res _ => res.1 = firstError UID w relatedKinds ∧ userRow res.2 = row ∧
        res.2.base.localID = localID ∧
        (res.1 = noError → ∀ k : Kind, res.2.data.related.get k = (k.loaded UID w).1))
      (fun _ _ => False) w := by
  have hq : w.pass.Quiet := ⟨by simp [World.pass, hf], rfl⟩
  have hid : row.id = UID := by simpa using List.find?_some hrow
  simp only [loadUserByID, pocoAssert, hu, ne_eq, not_false_eq_true, decide_True, ↓reduceIte,
    wp_bind, wp_tryCatch, wp_sqlCall, hf, List.head?_nil, reduceCtorEq, wp_get, wp_lastError,
    World.pass_lastMessage, World.pass_tables, hrow, hid, not_true_eq_false, wp_pure,
    loadUsersRelatedData]
  have hrow' := loadUserRow_userRow user localID row
  have hlocal := loadUserRow_localID user localID row
  generalize loadUserRow user localID row = user' at hrow' hlocal ⊢
  have huid : user'.base.id = UID := by rw [← hid, ← hrow']; rfl
  rw [huid]
  refine wp_mono ?_ (fun _ _ h => h) (loadRelated_spec hu hq relatedKinds _)
  rintro ⟨err, r⟩ _ ⟨-, he, hget⟩
  rw [firstError_pass] at he
  refine wp_ite _ _ _ |>.2 ?_
  split_ifs with herr
  · refine ⟨herr.symm.trans he, hrow', hlocal, fun _ k => ?_⟩
    rw [hget herr k, if_pos (by cases k <;> decide)]
    rfl
  · exact ⟨he, hrow', hlocal, fun h => absurd h herr⟩

end Quiet

end Kopsik
