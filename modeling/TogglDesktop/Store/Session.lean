import TogglDesktop.Store.Schema

namespace Kopsik
set_option autoImplicit true

theorem uuid_default_ne (n : Nat) : "uuid-" ++ toString n ≠ "" := fun h => by
  have h5 : "uuid-".length = 5 := rfl
  have := congrArg String.length h
  rw [String.length_append, h5] at this
  exact absurd this (by simp)

/-- The state `Database` works on: the tables in the file, the tables as they were when
`session->begin()` opened the running transaction, the outcome of each coming SQLite call
(`true`: the call fails), the connection's last message and `last_insert_rowid()`, the
UUIDs `createRandom` yields (never empty), the `changes` vector of the running call, the
schema and migration ledger of the file, and the `desktop_id_` member. -/
structure World where
  tables : Tables := {}
  savepoint : Option Tables := none
  faults : List Bool := []
  lastMessage : String := "not an error"
  lastRowid : Poco.Int64 := 0
  uuid : Nat → { s : String // s ≠ "" } := fun n => ⟨"uuid-" ++ toString n, uuid_default_ne n⟩
  drawn : Nat := 0
  changes : List ModelChange := []
  catalog : Catalog := {}
  desktopID : String := ""

/-- Store code: it reads and writes the world, and a Poco exception raised in it travels up
to the nearest `catch`, leaving the world as it was at the throw. -/
abbrev DB := EStateM Exception World

/-- A failing SQLite call: the connection keeps its message and Poco raises. -/
def fail (message : String) : DB α := do
  modify fun w => { w with lastMessage := message }
  throw (.sql message)

/-- Any SQLite call: it fails when the schedule says so. -/
def sqlCall : DB Unit := do
  let w ← get
  match w.faults with
  | true :: fs => set { w with faults := fs }; fail "disk I/O error"
  | false :: fs => set { w with faults := fs, lastMessage := "not an error" }
  | [] => set { w with lastMessage := "not an error" }

/-- `insert into t(..) values(..)`: refused when a unique index already holds the row's key
or no rowid is left. -/
def insertInto (t : TableName) (row : t.Row) : DB Unit := do
  sqlCall
  let w ← get
  let tab := w.tables.get t
  if tab.rows.any (fun p => t.conflict row p.2) then fail "constraint failed" else
  match tab.append row with
  | none => fail "database or disk is full"
  | some (r, tab') => set { w with tables := w.tables.set t tab', lastRowid := r }

/-- `update t set .. where local_id = :local_id`: refused when the row it rewrites would clash
with another row under a unique index; with no row of that `local_id` it changes nothing. -/
def updateWhere (t : TableName) (localID : Poco.Int64) (f : t.Row → t.Row) : DB Unit := do
  sqlCall
  let w ← get
  let tab := w.tables.get t
  if tab.rows.any (fun p => p.1 = localID &&
      tab.rows.any (fun q => q.1 ≠ localID && t.conflict (f p.2) q.2)) then
    fail "constraint failed"
  else set { w with tables := w.tables.set t (tab.update localID f) }

/-- `delete from t where local_id = :local_id`. -/
def deleteWhere (t : TableName) (localID : Poco.Int64) : DB Unit := do
  sqlCall
  modify fun w => { w with tables := w.tables.set t ((w.tables.get t).delete localID) }

/-- `select last_insert_rowid()`. -/
def selectLastInsertRowid : DB Poco.Int64 := do
  sqlCall
  return (← get).lastRowid

/-- `session->begin()`. -/
def begin : DB Unit := do
  sqlCall
  let w ← get
  match w.savepoint with
  | some _ => fail "cannot start a transaction within a transaction"
  | none => set { w with savepoint := some w.tables }

/-- `session->commit()`. -/
def commit : DB Unit := do
  sqlCall
  let w ← get
  match w.savepoint with
  | none => fail "cannot commit - no transaction is active"
  | some _ => set { w with savepoint := none }

/-- `session->rollback()`: the tables go back to what they were at `begin`. -/
def rollback : DB Unit := do
  sqlCall
  let w ← get
  match w.savepoint with
  | none => fail "cannot rollback - no transaction is active"
  | some d => set { w with tables := d, savepoint := none }

/-- `Database::last_error`. -/
def lastError (wasDoing : String) : DB error := do
  let last := (← get).lastMessage
  if last ≠ "not an error" then return wasDoing ++ ": " ++ last else return noError

/-- A fresh random UUID, as `EnsureGUID` draws it. -/
def generateGUID : DB String :=
  modifyGet fun w => ((w.uuid w.drawn).1, { w with drawn := w.drawn + 1 })

/-- `changes->push_back(ModelChange(..))`. -/
def pushChange (modelType changeType : String) (modelID : Poco.UInt64) (guid : String) :
    DB Unit :=
  modify fun w => { w with changes := w.changes ++ [⟨modelType, changeType, modelID, guid⟩] }

/-! A weakest-precondition calculus for store code: `wp x Q E w` says that `x` run from `w`
ends in a world `Q` accepts with the value it returns, or in one `E` accepts with the
exception it raises. -/

def wp (x : DB α) (Q : α → World → Prop) (E : Exception → World → Prop) (w : World) : Prop :=
  match x.run w with
  | .ok a w' => Q a w'
  | .error e w' => E e w'

section Wp

variable {x : DB α} {Q Q' : α → World → Prop} {E E' : Exception → World → Prop} {w : World}

@[simp] theorem wp_pure (a : α) : wp (pure a) Q E w ↔ Q a w := Iff.rfl

@[simp] theorem wp_bind (f : α → DB β) {Q : β → World → Prop} :
    wp (x >>= f) Q E w ↔ wp x (fun a => wp (f a) Q E) E w := by
  unfold wp
  delta EStateM.run
  simp only [bind, EStateM.bind]
  cases x w <;> rfl

@[simp] theorem wp_map (f : α → β) {Q : β → World → Prop} :
    wp (f <$> x) Q E w ↔ wp x (fun a => Q (f a)) E w := by
  unfold wp
  delta EStateM.run
  simp only [Functor.map, EStateM.map]
  cases x w <;> rfl

@[simp] theorem wp_throw (e : Exception) : wp (throw e : DB α) Q E w ↔ E e w := Iff.rfl

@[simp] theorem wp_tryCatch (h : Exception → DB α) :
    wp (tryCatch x h) Q E w ↔ wp x Q (fun e => wp (h e) Q E) w := by
  unfold wp
  show (match EStateM.tryCatch x h w with
    | .ok a w' => Q a w' | .error e w' => E e w') ↔ _
  delta EStateM.run
  simp only [EStateM.tryCatch]
  cases x w <;> rfl

@[simp] theorem wp_get {Q : World → World → Prop} : wp get Q E w ↔ Q w w := Iff.rfl

@[simp] theorem wp_set (w' : World) {Q : PUnit → World → Prop} :
    wp (set w' : DB PUnit) Q E w ↔ Q () w' := Iff.rfl

@[simp] theorem wp_modify (f : World → World) {Q : PUnit → World → Prop} :
    wp (modify f : DB PUnit) Q E w ↔ Q () (f w) := Iff.rfl

@[simp] theorem wp_modifyGet (f : World → α × World) :
    wp (modifyGet f : DB α) Q E w ↔ Q (f w).1 (f w).2 := Iff.rfl

theorem wp_ite (c : Prop) [Decidable c] (y z : DB α) :
    wp (if c then y else z) Q E w ↔ if c then wp y Q E w else wp z Q E w := by
  split <;> rfl

theorem wp_mono (hQ : ∀ a w, Q a w → Q' a w) (hE : ∀ e w, E e w → E' e w) :
    wp x Q E w → wp x Q' E' w := by
  unfold wp
  cases x.run w with
  | ok a s => exact hQ a s
  | error e s => exact hE e s

theorem wp_ok (h : wp x Q E w) (hr : x.run w = .ok a w') : Q a w' := by
  unfold wp at h
  rwa [hr] at h

theorem exists_ok_of_wp (h : wp x Q (fun _ _ => False) w) : ∃ a w', x.run w = .ok a w' ∧ Q a w' := by
  unfold wp at h
  cases hr : x.run w with
  | ok a w' => exact ⟨a, w', rfl, by rwa [hr] at h⟩
  | error e w' => rw [hr] at h; exact h.elim

end Wp

/-! What each primitive does, in the calculus. -/

section Primitives

variable {Q : α → World → Prop} {E : Exception → World → Prop} {w : World}

@[simp] theorem wp_fail (m : String) :
    wp (fail m : DB α) Q E w ↔ E (.sql m) { w with lastMessage := m } := Iff.rfl

/-- A SQLite call that the schedule lets through. -/
def World.pass (w : World) : World := { w with faults := w.faults.tail, lastMessage := "not an error" }

@[simp] theorem World.pass_tables (w : World) : w.pass.tables = w.tables := rfl
@[simp] theorem World.pass_savepoint (w : World) : w.pass.savepoint = w.savepoint := rfl
@[simp] theorem World.pass_changes (w : World) : w.pass.changes = w.changes := rfl
@[simp] theorem World.pass_lastMessage (w : World) : w.pass.lastMessage = "not an error" := rfl

/-- A SQLite call that the schedule fails. -/
def World.fault (w : World) : World :=
  { w with faults := w.faults.tail, lastMessage := "disk I/O error" }

@[simp] theorem World.fault_tables (w : World) : w.fault.tables = w.tables := rfl
@[simp] theorem World.fault_savepoint (w : World) : w.fault.savepoint = w.savepoint := rfl
@[simp] theorem World.fault_changes (w : World) : w.fault.changes = w.changes := rfl

theorem wp_sqlCall {Q : PUnit → World → Prop} :
    wp sqlCall Q E w ↔
      if w.faults.head? = some true then E (.sql "disk I/O error") w.fault else Q () w.pass := by
  unfold sqlCall
  rcases w with ⟨_, _, _ | ⟨_ | _, _⟩, _⟩ <;> rfl

theorem wp_insertInto {Q : PUnit → World → Prop} (t : TableName) (row : t.Row) :
    wp (insertInto t row) Q E w ↔
      if w.faults.head? = some true then E (.sql "disk I/O error") w.fault
      else if (w.tables.get t).rows.any (fun p => t.conflict row p.2) then
        E (.sql "constraint failed") { w.pass with lastMessage := "constraint failed" }
      else match (w.tables.get t).append row with
        | none => E (.sql "database or disk is full")
            { w.pass with lastMessage := "database or disk is full" }
        | some (r, tab') => Q () { w.pass with tables := w.tables.set t tab', lastRowid := r } := by
  simp only [insertInto, wp_bind, wp_sqlCall, wp_get, wp_ite, World.pass_tables]
  split_ifs
  · rfl
  · rfl
  · split <;> rfl

theorem wp_updateWhere {Q : PUnit → World → Prop} (t : TableName) (localID : Poco.Int64)
    (f : t.Row → t.Row) :
    wp (updateWhere t localID f) Q E w ↔
      if w.faults.head? = some true then E (.sql "disk I/O error") w.fault
      else if (w.tables.get t).rows.any (fun p => p.1 = localID &&
          (w.tables.get t).rows.any (fun q => q.1 ≠ localID && t.conflict (f p.2) q.2)) then
        E (.sql "constraint failed") { w.pass with lastMessage := "constraint failed" }
      else Q () { w.pass with tables := w.tables.set t ((w.tables.get t).update localID f) } := by
  simp only [updateWhere, wp_bind, wp_sqlCall, wp_get, wp_ite, World.pass_tables]
  split_ifs <;> rfl

theorem wp_deleteWhere {Q : PUnit → World → Prop} (t : TableName) (localID : Poco.Int64) :
    wp (deleteWhere t localID) Q E w ↔
      if w.faults.head? = some true then E (.sql "disk I/O error") w.fault
      else Q () { w.pass with tables := w.tables.set t ((w.tables.get t).delete localID) } := by
  simp only [deleteWhere, wp_bind, wp_sqlCall]
  split_ifs <;> rfl

theorem wp_selectLastInsertRowid {Q : Poco.Int64 → World → Prop} :
    wp selectLastInsertRowid Q E w ↔
      if w.faults.head? = some true then E (.sql "disk I/O error") w.fault
      else Q w.lastRowid w.pass := by
  simp only [selectLastInsertRowid, wp_bind, wp_sqlCall]
  split_ifs <;> rfl

theorem wp_begin {Q : PUnit → World → Prop} :
    wp begin Q E w ↔
      if w.faults.head? = some true then E (.sql "disk I/O error") w.fault
      else match w.savepoint with
        | some _ => E (.sql "cannot start a transaction within a transaction")
            { w.pass with lastMessage := "cannot start a transaction within a transaction" }
        | none => Q () { w.pass with savepoint := some w.tables } := by
  simp only [begin, wp_bind, wp_sqlCall, wp_get, World.pass_savepoint]
  split_ifs
  · rfl
  · split <;> rfl

theorem wp_commit {Q : PUnit → World → Prop} :
    wp commit Q E w ↔
      if w.faults.head? = some true then E (.sql "disk I/O error") w.fault
      else match w.savepoint with
        | none => E (.sql "cannot commit - no transaction is active")
            { w.pass with lastMessage := "cannot commit - no transaction is active" }
        | some _ => Q () { w.pass with savepoint := none } := by
  simp only [commit, wp_bind, wp_sqlCall, wp_get, World.pass_savepoint]
  split_ifs
  · rfl
  · split <;> rfl

theorem wp_rollback {Q : PUnit → World → Prop} :
    wp rollback Q E w ↔
      if w.faults.head? = some true then E (.sql "disk I/O error") w.fault
      else match w.savepoint with
        | none => E (.sql "cannot rollback - no transaction is active")
            { w.pass with lastMessage := "cannot rollback - no transaction is active" }
        | some d => Q () { w.pass with tables := d, savepoint := none } := by
  simp only [rollback, wp_bind, wp_sqlCall, wp_get, World.pass_savepoint]
  split_ifs
  · rfl
  · split <;> rfl

@[simp] theorem wp_lastError {Q : error → World → Prop} (wasDoing : String) :
    wp (lastError wasDoing) Q E w ↔
      Q (if w.lastMessage ≠ "not an error" then wasDoing ++ ": " ++ w.lastMessage else noError) w := by
  simp only [lastError, wp_bind, wp_get]
  split_ifs <;> rfl

@[simp] theorem wp_generateGUID {Q : String → World → Prop} :
    wp generateGUID Q E w ↔ Q (w.uuid w.drawn).1 { w with drawn := w.drawn + 1 } := Iff.rfl

@[simp] theorem wp_pushChange {Q : PUnit → World → Prop} (m c : String) (i : Poco.UInt64) (g : String) :
    wp (pushChange m c i g) Q E w ↔ Q () { w with changes := w.changes ++ [⟨m, c, i, g⟩] } := Iff.rfl

end Primitives

end Kopsik
