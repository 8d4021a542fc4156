import TogglDesktop.Store.Save

namespace Kopsik
set_option autoImplicit true

/-! The timeline queue. `insert_timeline_event` appends a recorded event to `timeline_events`,
`select_timeline_batch` reads up to 100 of a user's events, and `delete_timeline_batch` removes
a batch once the uploader has sent it; the three `handle…Notification` calls are how the
recorder and the uploader reach them. None of them catches, so what Poco raises leaves the
store as it was at the throw, and the table is part of that state. -/

/-- A `timeline_events` row as `insert_timeline_event` writes it: every column bound, so none
is NULL. -/
structure TimelineRow where
  userID : Poco.Int64
  title : String
  filename : String
  startTime : Poco.Int64
  endTime : Poco.Int64
  idle : Bool
  deriving DecidableEq, Repr

/-- `TimelineEvent`, with the types its uses give its fields (its declaration is not among the
sources): `id` and `user_id` are `unsigned int`, the times `time_t`. -/
structure TimelineEvent where
  id : BitVec 32
  userID : BitVec 32
  title : String
  filename : String
  startTime : Poco.Int64
  endTime : Poco.Int64
  idle : Bool
  deriving DecidableEq, Repr

/-- What escapes a timeline call: an exception of the store, or the `RangeException` a
`Poco::Dynamic::Var` raises when converted to an integer type its value does not fit. -/
inductive TimelineException
  | store (e : Exception)
  | range (message : String)
  deriving DecidableEq, Repr

/-- The store together with its `timeline_events` table. -/
structure TimelineWorld where
  world : World
  events : Table TimelineRow

abbrev TimelineDB := EStateM TimelineException TimelineWorld

/-- Store code, run on the store's part of the state. -/
def liftDB (x : DB α) : TimelineDB α := fun s =>
  match x.run s.world with
  | .ok a w => .ok a { s with world := w }
  | .error e w => .error (.store e) { s with world := w }

/-- A conversion's result: its value, or its exception raised. -/
def raiseOf : Except TimelineException α → TimelineDB α
  | .ok a => pure a
  | .error e => throw e

/-- The state a run ends in, whether it returns or raises. -/
def finalState : EStateM.Result ε σ α → σ
  | .ok _ s => s
  | .error _ s => s

/-- `Var::convert<unsigned int>` of an `INTEGER` column, which the record set holds as `Int64`. -/
def convertUnsigned (v : Poco.Int64) : Except TimelineException (BitVec 32) :=
  if v.toInt < 0 then .error (.range "Value too small.")
  else if 4294967295 < v.toInt then .error (.range "Value too large.")
  else .ok (v.setWidth 32)

/-- `Var::convert<int>` of an `INTEGER` column. -/
def convertInt (v : Poco.Int64) : Except TimelineException (BitVec 32) :=
  if 2147483647 < v.toInt then .error (.range "Value too large.")
  else if v.toInt < -2147483648 then .error (.range "Value too small.")
  else .ok (v.setWidth 32)

/-- One pass of `select_timeline_batch`'s row loop: the columns converted in the order the
source reads them, and the user's ID cast to `unsigned int`. -/
def readTimelineEvent (userID : Poco.UInt64) (row : Poco.Int64 × TimelineRow) :
    Except TimelineException TimelineEvent := do
  let id ← convertUnsigned row.1
  let startTime ← convertInt row.2.startTime
  let endTime ← convertInt row.2.endTime
  return {
    id := id
    title := row.2.title
    filename := row.2.filename
    startTime := startTime.signExtend 64
    endTime := endTime.signExtend 64
    idle := row.2.idle
    userID := userID.setWidth 32 }

/-- The rows `… from timeline_events where user_id = :user_id` selects, in the table's order. -/
def timelineRowsOf (userID : Poco.UInt64) (events : Table TimelineRow) :
    List (Poco.Int64 × TimelineRow) :=
  events.rows.filter fun p => p.2.userID = userID

/-- The rows the select returns: its `limit 100` keeps the first hundred. -/
def timelineBatchRows (userID : Poco.UInt64) (events : Table TimelineRow) :
    List (Poco.Int64 × TimelineRow) :=
  (timelineRowsOf userID events).take 100

/-- `Database::select_timeline_batch`. The statement is executed once, so `done()` holds after
the first pass of the outer loop. -/
def selectTimelineBatch (userID : Poco.UInt64) (timelineEvents : List TimelineEvent) :
    TimelineDB (error × List TimelineEvent) := do
  liftDB (pocoAssert (decide (0 < userID.toNat)) "user_id > 0")
  liftDB (pocoAssert timelineEvents.isEmpty "timeline_events->empty()")
  liftDB sqlCall
  let batch ← raiseOf ((timelineBatchRows userID (← get).events).mapM (readTimelineEvent userID))
  let err ← liftDB (lastError "select_timeline_batch")
  return (err, timelineEvents ++ batch)

/-- The row `insert_timeline_event` binds for an event. Poco binds the `unsigned int` user ID
as an `Int32` (`sqlite3_bind_int`), so the column holds its sign extension. -/
def TimelineEvent.row (event : TimelineEvent) : TimelineRow :=
  ⟨event.userID.signExtend 64, event.title, event.filename, event.startTime, event.endTime,
    event.idle⟩

/-- The `INSERT INTO timeline_events` statement, after its SQLite call passes. -/
def appendTimelineRow (row : TimelineRow) : TimelineDB Unit := fun s =>
  match s.events.append row with
  | none => (liftDB (fail "database or disk is full")).run s
  | some (r, events) => .ok () { world := { s.world with lastRowid := r }, events := events }

/-- `Database::insert_timeline_event`. -/
def insertTimelineEvent (event : TimelineEvent) : TimelineDB error := do
  liftDB (pocoAssert (decide (0 < event.userID.toNat)) "event.user_id > 0")
  liftDB (pocoAssert (decide (0 < event.startTime.toInt)) "event.start_time > 0")
  liftDB (pocoAssert (decide (0 < event.endTime.toInt)) "event.end_time > 0")
  liftDB sqlCall
  appendTimelineRow event.row
  liftDB (lastError "insert_timeline_event")

/-- `DELETE FROM timeline_events WHERE id = :id` with a vector bound: Poco runs the statement
once per element, in order, and the first run that fails raises. -/
def deleteTimelineRows : List Poco.Int64 → TimelineDB Unit
  | [] => pure ()
  | id :: ids => do
    liftDB sqlCall
    modify fun s => { s with events := s.events.delete id }
    deleteTimelineRows ids

/-- `Database::delete_timeline_batch`. The IDs are copied into a `std::vector<int>`, so each is
bound as the signed value of its bits. -/
def deleteTimelineBatch (timelineEvents : List TimelineEvent) : TimelineDB error := do
  liftDB (pocoAssert (!timelineEvents.isEmpty) "!timeline_events.empty()")
  let ids : List (BitVec 32) := timelineEvents.map (·.id)
  deleteTimelineRows (ids.map (·.signExtend 64))
  liftDB (lastError "delete_timeline_batch")

/-- `Database::handleTimelineEventNotification`: the error is dropped. -/
def handleTimelineEventNotification (event : TimelineEvent) : TimelineDB Unit := do
  let _ ← insertTimelineEvent event

/-- The `TimelineBatchReadyNotification` that `handleCreateTimelineBatchNotification` posts. -/
structure TimelineBatchReady where
  userID : Poco.UInt64
  batch : List TimelineEvent
  desktopID : String

/-- `Database::handleCreateTimelineBatchNotification`: the error is dropped, and a batch is
posted when there is one. -/
def handleCreateTimelineBatchNotification (userID : Poco.UInt64) :
    TimelineDB (Option TimelineBatchReady) := do
  let (_, batch) ← selectTimelineBatch userID []
  if batch.isEmpty then return none
  else return some ⟨userID, batch, (← get).world.desktopID⟩

/-- `Database::handleDeleteTimelineBatchNotification`. -/
def handleDeleteTimelineBatchNotification (batch : List TimelineEvent) : TimelineDB Unit := do
  liftDB (pocoAssert (!batch.isEmpty) "!notification->batch.empty()")
  let _ ← deleteTimelineBatch batch

/-- The uploader, which is not among the sources, drives the store by two notifications: a
round asks for a batch and, once one is posted and sent, has it deleted. It returns the batch. -/
def uploadRound (userID : Poco.UInt64) : TimelineDB (List TimelineEvent) := do
  match ← handleCreateTimelineBatchNotification userID with
  | none => return []
  | some ready =>
    handleDeleteTimelineBatchNotification ready.batch
    return ready.batch

/-- Rounds one after another, with the batch each one sent. -/
def uploadRounds (userID : Poco.UInt64) : Nat → TimelineDB (List (List TimelineEvent))
  | 0 => pure []
  | n + 1 => do
    let batch ← uploadRound userID
    let batches ← uploadRounds userID n
    return batch :: batches

/-! ### Conversions -/

/-- The value `delete_timeline_batch` binds for the event read from a row: its `id`, through
`unsigned int` and then `int`. -/
def boundID (p : Poco.Int64 × TimelineRow) : Poco.Int64 := (p.1.setWidth 32).signExtend 64

/-- A value `Var::convert<int>` takes. -/
def FitsInt (v : Poco.Int64) : Prop := -2147483648 ≤ v.toInt ∧ v.toInt ≤ 2147483647

/-- A row whose columns `select_timeline_batch` converts: its `id` fits an `unsigned int`, its
times an `int`. -/
def Readable (p : Poco.Int64 × TimelineRow) : Prop :=
  0 ≤ p.1.toInt ∧ p.1.toInt ≤ 4294967295 ∧ FitsInt p.2.startTime ∧ FitsInt p.2.endTime

instance (p : Poco.Int64 × TimelineRow) : Decidable (Readable p) :=
  inferInstanceAs (Decidable (_ ∧ _ ∧ (_ ∧ _) ∧ (_ ∧ _)))

/-- The event read from a row whose columns convert. -/
def readEvent (userID : Poco.UInt64) (p : Poco.Int64 × TimelineRow) : TimelineEvent where
  id := p.1.setWidth 32
  userID := userID.setWidth 32
  title := p.2.title
  filename := p.2.filename
  startTime := p.2.startTime
  endTime := p.2.endTime
  idle := p.2.idle

theorem signExtend_setWidth_of_fitsInt {v : Poco.Int64} (h : FitsInt v) :
    (v.setWidth 32).signExtend 64 = v := by
  apply BitVec.eq_of_toInt_eq
  have hv := BitVec.toInt_eq_toNat_cond v
  have := v.isLt
  rw [BitVec.signExtend, BitVec.toInt_ofInt, BitVec.toInt_eq_toNat_bmod (v.setWidth 32),
    BitVec.toNat_setWidth, hv]
  rw [FitsInt, hv] at h
  simp only [Int.bmod]
  split_ifs at * <;> omega

theorem signExtend_of_lt {x : BitVec 32} (h : x.toNat < 2147483648) :
    x.signExtend 64 = x.setWidth 64 := by
  apply BitVec.eq_of_toNat_eq
  rw [BitVec.signExtend, BitVec.toNat_ofInt, BitVec.toInt_eq_toNat_cond, if_pos (by omega),
    BitVec.toNat_setWidth]
  omega

theorem toInt_signExtend_setWidth_neg {v : Poco.Int64} (h₀ : 2147483648 ≤ v.toInt)
    (h₁ : v.toInt ≤ 4294967295) : ((v.setWidth 32).signExtend 64).toInt < 0 := by
  have hv := BitVec.toInt_eq_toNat_cond v
  have := v.isLt
  rw [BitVec.signExtend, BitVec.toInt_ofInt, BitVec.toInt_eq_toNat_bmod (v.setWidth 32),
    BitVec.toNat_setWidth]
  rw [hv] at h₀ h₁
  simp only [Int.bmod]
  split_ifs at * <;> omega

theorem readTimelineEvent_of_readable {p : Poco.Int64 × TimelineRow} (h : Readable p)
    (userID : Poco.UInt64) : readTimelineEvent userID p = .ok (readEvent userID p) := by
  obtain ⟨h₀, h₁, ⟨hs₀, hs₁⟩, ⟨he₀, he₁⟩⟩ := h
  simp only [readTimelineEvent, convertUnsigned, convertInt, if_neg (not_lt.2 h₀),
    if_neg (not_lt.2 h₁), if_neg (not_lt.2 hs₁), if_neg (not_lt.2 hs₀), if_neg (not_lt.2 he₁),
    if_neg (not_lt.2 he₀), bind, Except.bind, pure, Except.pure,
    signExtend_setWidth_of_fitsInt ⟨hs₀, hs₁⟩, signExtend_setWidth_of_fitsInt ⟨he₀, he₁⟩]
  rfl

theorem convertUnsigned_ok {v : Poco.Int64} {x : BitVec 32} (h : convertUnsigned v = .ok x) :
    0 ≤ v.toInt ∧ v.toInt ≤ 4294967295 := by
  unfold convertUnsigned at h
  split_ifs at h with h₀ h₁
  exact ⟨not_lt.1 h₀, not_lt.1 h₁⟩

theorem convertInt_ok {v : Poco.Int64} {x : BitVec 32} (h : convertInt v = .ok x) : FitsInt v := by
  unfold convertInt at h
  split_ifs at h with h₀ h₁
  exact ⟨not_lt.1 h₁, not_lt.1 h₀⟩

theorem readTimelineEvent_ok {p : Poco.Int64 × TimelineRow} {userID : Poco.UInt64}
    {e : TimelineEvent} (h : readTimelineEvent userID p = .ok e) :
    Readable p ∧ e = readEvent userID p := by
  have hr : Readable p := by
    unfold readTimelineEvent at h
    cases h₁ : convertUnsigned p.1 with
    | error => rw [h₁] at h; cases h
    | ok id =>
      cases h₂ : convertInt p.2.startTime with
      | error => rw [h₁, h₂] at h; cases h
      | ok startTime =>
        cases h₃ : convertInt p.2.endTime with
        | error => rw [h₁, h₂, h₃] at h; cases h
        | ok endTime => exact ⟨(convertUnsigned_ok h₁).1, (convertUnsigned_ok h₁).2,
            convertInt_ok h₂, convertInt_ok h₃⟩
  exact ⟨hr, (Except.ok.inj ((readTimelineEvent_of_readable hr userID).symm.trans h)).symm⟩

theorem mapM_readTimelineEvent {l : List (Poco.Int64 × TimelineRow)} (h : ∀ p ∈ l, Readable p)
    (userID : Poco.UInt64) :
    l.mapM (readTimelineEvent userID) = .ok (l.map (readEvent userID)) := by
  induction l with
  | nil => rfl
  | cons p l ih =>
    rw [List.mapM_cons, readTimelineEvent_of_readable (h p (List.mem_cons_self _ _)),
      ih fun q hq => h q (List.mem_cons_of_mem _ hq)]
    rfl

section Run

variable {s s' : TimelineWorld}

theorem run_bind {x : TimelineDB α} {f : α → TimelineDB β} :
    (x >>= f).run s = match x.run s with
      | .ok a s' => (f a).run s'
      | .error e s' => .error e s' := by
  change EStateM.bind x f s = _
  delta EStateM.bind EStateM.run
  cases x s <;> rfl

@[simp] theorem run_pure (a : α) : (pure a : TimelineDB α).run s = .ok a s := rfl

@[simp] theorem run_get : (get : TimelineDB TimelineWorld).run s = .ok s s := rfl

@[simp] theorem run_modify (f : TimelineWorld → TimelineWorld) :
    (modify f : TimelineDB Unit).run s = .ok () (f s) := rfl

theorem run_bind_ok {x : TimelineDB α} {f : α → TimelineDB β} (h : x.run s = .ok a s') :
    (x >>= f).run s = (f a).run s' := by
  rw [run_bind, h]

theorem liftDB_pocoAssert (c : Bool) (what : String) :
    (liftDB (pocoAssert c what)).run s =
      if c then .ok () s else .error (.store (.assertion what)) s := by
  cases c <;> rfl

theorem liftDB_sqlCall :
    (liftDB sqlCall).run s = if s.world.faults.head? = some true
      then .error (.store (.sql "disk I/O error")) { s with world := s.world.fault }
      else .ok () { s with world := s.world.pass } := by
  rcases s with ⟨⟨_, _, _ | ⟨_ | _, _⟩, _⟩, _⟩ <;> rfl

theorem liftDB_lastError (wasDoing : String) :
    (liftDB (lastError wasDoing)).run s = .ok (if s.world.lastMessage ≠ "not an error"
      then wasDoing ++ ": " ++ s.world.lastMessage else noError) s := by
  obtain ⟨a, w, hrun, rfl, rfl⟩ : ∃ a w, (lastError wasDoing).run s.world = .ok a w ∧
      a = (if s.world.lastMessage ≠ "not an error" then wasDoing ++ ": " ++ s.world.lastMessage
        else noError) ∧ w = s.world :=
    exists_ok_of_wp (by rw [wp_lastError]; exact ⟨rfl, rfl⟩)
  delta EStateM.run liftDB at *
  rw [hrun]

@[simp] theorem run_raiseOf_ok (a : α) : (raiseOf (.ok a)).run s = .ok a s := rfl

@[simp] theorem run_raiseOf_error (e : TimelineException) :
    (raiseOf (.error e : Except TimelineException α)).run s = .error e s := rfl

theorem selectTimelineBatch_eq (u : Poco.UInt64) (timelineEvents : List TimelineEvent) :
    (selectTimelineBatch u timelineEvents).run s =
      if ¬ 0 < u.toNat then .error (.store (.assertion "user_id > 0")) s
      else if ¬ timelineEvents.isEmpty then
        .error (.store (.assertion "timeline_events->empty()")) s
      else if s.world.faults.head? = some true then
        .error (.store (.sql "disk I/O error")) { s with world := s.world.fault }
      else match (timelineBatchRows u s.events).mapM (readTimelineEvent u) with
        | .ok batch => .ok (noError, timelineEvents ++ batch) { s with world := s.world.pass }
        | .error e => .error e { s with world := s.world.pass } := by
  simp only [selectTimelineBatch, run_bind, liftDB_pocoAssert, liftDB_sqlCall, decide_eq_true_eq]
  split_ifs <;> simp only [*, ↓reduceIte]
  cases hb : (timelineBatchRows u s.events).mapM (readTimelineEvent u) <;>
    simp only [run_get, hb, run_raiseOf_ok, run_raiseOf_error, liftDB_lastError,
      World.pass_lastMessage, ne_eq, not_true_eq_false, ↓reduceIte, run_pure]

theorem selectTimelineBatch_run {u : Poco.UInt64} (hu : 0 < u.toNat)
    (hf : s.world.faults.head? ≠ some true)
    (hb : (timelineBatchRows u s.events).mapM (readTimelineEvent u) = .ok batch) :
    (selectTimelineBatch u []).run s = .ok (noError, batch) { s with world := s.world.pass } := by
  rw [selectTimelineBatch_eq, if_neg (not_not.2 hu), if_neg (not_not.2 List.isEmpty_nil),
    if_neg hf, hb]
  rfl

theorem handleCreateTimelineBatchNotification_run {u : Poco.UInt64} (hu : 0 < u.toNat)
    (hf : s.world.faults.head? ≠ some true)
    (hb : (timelineBatchRows u s.events).mapM (readTimelineEvent u) = .ok batch) :
    (handleCreateTimelineBatchNotification u).run s =
      .ok (if batch.isEmpty then none else some ⟨u, batch, s.world.desktopID⟩)
        { s with world := s.world.pass } := by
  rw [handleCreateTimelineBatchNotification, run_bind_ok (selectTimelineBatch_run hu hf hb)]
  cases batch <;> rfl

theorem World.pass_pass {w : World} (h : w.faults = []) : w.pass.pass = w.pass := by
  simp only [World.pass, h, List.tail_nil]

theorem deleteTimelineRows_run (hf : s.world.faults = []) (ids : List Poco.Int64) :
    (deleteTimelineRows ids).run s = .ok ()
      { world := if ids = [] then s.world else s.world.pass,
        events := ids.foldl Table.delete s.events } := by
  induction ids generalizing s with
  | nil => rfl
  | cons id ids ih =>
    have hs : (liftDB sqlCall).run s = .ok () { s with world := s.world.pass } := by
      rw [liftDB_sqlCall, hf]; rfl
    rw [deleteTimelineRows, run_bind_ok hs, run_bind_ok (run_modify _),
      ih (by simp [World.pass, hf])]
    by_cases h : ids = [] <;> simp [h, World.pass_pass hf]

theorem handleDeleteTimelineBatchNotification_run (hf : s.world.faults = [])
    (hb : batch ≠ []) :
    (handleDeleteTimelineBatchNotification batch).run s = .ok ()
      { world := s.world.pass,
        events := ((batch.map (·.id)).map (·.signExtend 64)).foldl Table.delete s.events } := by
  have hne : batch.isEmpty = false := by cases batch <;> simp_all
  simp only [handleDeleteTimelineBatchNotification, deleteTimelineBatch, run_bind,
    liftDB_pocoAssert, hne, Bool.not_false, if_true, deleteTimelineRows_run hf,
    List.map_eq_nil_iff, hb, if_false, liftDB_lastError, World.pass_lastMessage, ne_eq,
    not_true_eq_false, run_pure]

theorem finalState_bind {x : TimelineDB α} {f : α → TimelineDB β} :
    finalState ((x >>= f).run s) = match x.run s with
      | .ok a s' => finalState ((f a).run s')
      | .error _ s' => s' := by
  rw [run_bind]
  cases x.run s <;> rfl

theorem appendTimelineRow_run (row : TimelineRow) :
    (appendTimelineRow row).run s = match s.events.append row with
      | none => .error (.store (.sql "database or disk is full"))
          { s with world := { s.world with lastMessage := "database or disk is full" } }
      | some (r, events) =>
          .ok () { world := { s.world with lastRowid := r }, events := events } := by
  delta EStateM.run
  rcases h : s.events.append row with _ | ⟨r, events⟩ <;> simp only [appendTimelineRow, h]
  rfl

theorem insertTimelineEvent_eq (event : TimelineEvent) :
    (insertTimelineEvent event).run s =
      if ¬ 0 < event.userID.toNat then .error (.store (.assertion "event.user_id > 0")) s
      else if ¬ 0 < event.startTime.toInt then
        .error (.store (.assertion "event.start_time > 0")) s
      else if ¬ 0 < event.endTime.toInt then .error (.store (.assertion "event.end_time > 0")) s
      else if s.world.faults.head? = some true then
        .error (.store (.sql "disk I/O error")) { s with world := s.world.fault }
      else match s.events.append event.row with
        | none => .error (.store (.sql "database or disk is full"))
            { s with world := { s.world.pass with lastMessage := "database or disk is full" } }
        | some (r, events) =>
            .ok noError { world := { s.world.pass with lastRowid := r }, events := events } := by
  simp only [insertTimelineEvent, run_bind, liftDB_pocoAssert, liftDB_sqlCall, decide_eq_true_eq]
  split_ifs <;> simp only [*, ↓reduceIte, appendTimelineRow_run]
  rcases h : s.events.append event.row with _ | ⟨r, events⟩ <;>
    simp only [h, liftDB_lastError, World.pass_lastMessage, ne_eq, not_true_eq_false, ↓reduceIte]

theorem handleTimelineEventNotification_rows (event : TimelineEvent) :
    (finalState ((handleTimelineEventNotification event).run s)).events.rows = s.events.rows ∨
      ∃ r row, 0 < r.toInt ∧
        (finalState ((handleTimelineEventNotification event).run s)).events.rows =
          s.events.rows ++ [(r, row)] := by
  rw [handleTimelineEventNotification, finalState_bind, insertTimelineEvent_eq]
  split_ifs
  · exact .inl rfl
  · rcases h : s.events.append event.row with _ | ⟨r, events⟩
    · exact .inl rfl
    · obtain ⟨-, hr, hrows⟩ := Table.append_some h
      exact .inr ⟨r, _, hr, hrows⟩
  all_goals exact .inl rfl

theorem exists_of_mapM_ok {f : α → Except ε β} {l : List α} {bs : List β}
    (h : l.mapM f = .ok bs) : ∀ b ∈ bs, ∃ a ∈ l, f a = .ok b := by
  induction l generalizing bs with
  | nil => cases h; simp
  | cons a l ih =>
    rw [List.mapM_cons] at h
    cases ha : f a with
    | error e => rw [ha] at h; cases h
    | ok b =>
      cases hl : l.mapM f with
      | error e => rw [ha, hl] at h; cases h
      | ok bs' =>
        rw [ha, hl] at h
        cases h
        intro c hc
        rcases List.mem_cons.1 hc with rfl | hc
        · exact ⟨a, List.mem_cons_self _ _, ha⟩
        · obtain ⟨a', ha', hfa⟩ := ih hl c hc
          exact ⟨a', List.mem_cons_of_mem _ ha', hfa⟩

/-- Asking for a batch leaves the table as it was, and a batch posted is the conversion of the
rows the select returned. -/
theorem handleCreateTimelineBatchNotification_events (u : Poco.UInt64) :
    (finalState ((handleCreateTimelineBatchNotification u).run s)).events = s.events ∧
      ∀ ready s', (handleCreateTimelineBatchNotification u).run s = .ok (some ready) s' →
        (timelineBatchRows u s.events).mapM (readTimelineEvent u) = .ok ready.batch := by
  rw [handleCreateTimelineBatchNotification, finalState_bind, run_bind, selectTimelineBatch_eq]
  split_ifs <;> try exact ⟨rfl, fun _ _ h => by cases h⟩
  cases hb : (timelineBatchRows u s.events).mapM (readTimelineEvent u) with
  | error e => exact ⟨rfl, fun _ _ h => by cases h⟩
  | ok batch =>
    cases batch with
    | nil => exact ⟨rfl, fun _ _ h => by cases h⟩
    | cons e es => exact ⟨rfl, fun _ _ h => by cases h; rfl⟩

theorem deleteTimelineRows_rows (ids : List Poco.Int64) (s : TimelineWorld) :
    ∃ k, (finalState ((deleteTimelineRows ids).run s)).events.rows =
      s.events.rows.filter fun p => p.1 ∉ ids.take k := by
  induction ids generalizing s with
  | nil => exact ⟨0, by simp; rfl⟩
  | cons id ids ih =>
    rw [deleteTimelineRows, finalState_bind, liftDB_sqlCall]
    split_ifs
    · exact ⟨0, by simp⟩
    · dsimp only
      rw [finalState_bind, run_modify]
      obtain ⟨k, hk⟩ := ih { world := s.world.pass, events := s.events.delete id }
      refine ⟨k + 1, ?_⟩
      rw [hk]
      simp only [Table.delete, List.filter_filter, List.take_succ_cons]
      exact List.filter_congr fun p _ => by simp [Bool.and_comm]

/-- Deleting a batch ends, with any failing call, where its deletes end, or with the table
untouched. -/
theorem handleDeleteTimelineBatchNotification_events (batch : List TimelineEvent) :
    (finalState ((handleDeleteTimelineBatchNotification batch).run s)).events = s.events ∨
      (finalState ((handleDeleteTimelineBatchNotification batch).run s)).events =
        (finalState
          ((deleteTimelineRows ((batch.map (·.id)).map (·.signExtend 64))).run s)).events := by
  rw [handleDeleteTimelineBatchNotification, finalState_bind, liftDB_pocoAssert]
  split_ifs
  · dsimp only
    rw [finalState_bind, deleteTimelineBatch, run_bind, liftDB_pocoAssert, if_pos ‹_›]
    dsimp only
    rw [run_bind]
    cases (deleteTimelineRows ((batch.map (·.id)).map (·.signExtend 64))).run s with
    | error e s' => exact .inr rfl
    | ok a s' =>
      dsimp only
      rw [liftDB_lastError]
      exact .inr rfl
  · exact .inl rfl

theorem handleDeleteTimelineBatchNotification_rows (batch : List TimelineEvent) :
    ∃ k, (finalState ((handleDeleteTimelineBatchNotification batch).run s)).events.rows =
      s.events.rows.filter fun p => p.1 ∉ ((batch.map (·.id)).map (·.signExtend 64)).take k := by
  rcases handleDeleteTimelineBatchNotification_events (s := s) batch with h | h <;> rw [h]
  exacts [⟨0, by simp⟩, deleteTimelineRows_rows _ s]

end Run

/-! ### Rounds with no failing call -/

theorem foldl_delete_rows (ids : List Poco.Int64) (t : Table R) :
    (ids.foldl Table.delete t).rows = t.rows.filter fun p => p.1 ∉ ids := by
  induction ids generalizing t with
  | nil => simp
  | cons id ids ih =>
    rw [List.foldl_cons, ih]
    simp only [Table.delete, List.filter_filter]
    exact List.filter_congr fun p _ => by simp [Bool.and_comm]

theorem Table.fst_mem_map_iff {t : Table R} {rows : List (Poco.Int64 × R)} (hrows : rows ⊆ t.rows)
    {p : Poco.Int64 × R} (hp : p ∈ t.rows) : p.1 ∈ rows.map Prod.fst ↔ p ∈ rows := by
  refine ⟨fun h => ?_, List.mem_map_of_mem _⟩
  obtain ⟨q, hq, hqp⟩ := List.mem_map.1 h
  rwa [← List.inj_on_of_nodup_map t.nodup (hrows hq) hp hqp]

theorem filter_not_mem_take [BEq α] [LawfulBEq α] {l : List α} (h : l.Nodup) (k : Nat) :
    l.filter (fun a => a ∉ l.take k) = l.drop k := by
  have hd : (l.take k ++ l.drop k).Nodup := by rwa [List.take_append_drop]
  conv_lhs => rw [← List.take_append_drop k l]
  rw [List.filter_append, List.filter_eq_nil_iff.2 fun a ha => by simpa using ha,
    List.filter_eq_self.2 fun a ha => by simpa using fun h' => (List.nodup_append.1 hd).2.2 h' ha,
    List.nil_append]

theorem boundID_of_lt {p : Poco.Int64 × TimelineRow} (hr : Readable p)
    (h : p.1.toInt < 2147483648) : boundID p = p.1 :=
  signExtend_setWidth_of_fitsInt ⟨by have := hr.1; omega, by omega⟩

theorem boundID_of_nonneg {p : Poco.Int64 × TimelineRow} (hr : Readable p)
    (h : 0 ≤ (boundID p).toInt) : boundID p = p.1 ∧ p.1.toInt < 2147483648 := by
  by_cases hp : p.1.toInt < 2147483648
  · exact ⟨boundID_of_lt hr hp, hp⟩
  · exact absurd h (not_le.2 (toInt_signExtend_setWidth_neg (not_lt.1 hp) hr.2.1))

theorem uploadRound_run {u : Poco.UInt64} (hu : 0 < u.toNat) {s : TimelineWorld}
    (hf : s.world.faults = []) (hr : ∀ p ∈ timelineBatchRows u s.events, Readable p) :
    (uploadRound u).run s = .ok ((timelineBatchRows u s.events).map (readEvent u))
      { world := s.world.pass,
        events := ((timelineBatchRows u s.events).map boundID).foldl Table.delete s.events } := by
  rw [uploadRound, run_bind_ok (handleCreateTimelineBatchNotification_run hu (by simp [hf])
    (mapM_readTimelineEvent hr u))]
  cases hB : timelineBatchRows u s.events with
  | nil => rfl
  | cons p ps =>
    simp only [List.map_cons, List.isEmpty_cons, Bool.false_eq_true, ↓reduceIte]
    rw [run_bind_ok (handleDeleteTimelineBatchNotification_run (by simp [World.pass, hf])
      (List.cons_ne_nil _ _)), World.pass_pass hf]
    simp only [List.map_cons, List.map_map]
    rfl

theorem timelineRowsOf_nodup (u : Poco.UInt64) (t : Table TimelineRow) :
    (timelineRowsOf u t).Nodup :=
  (List.Nodup.of_map Prod.fst t.nodup).filter _

theorem timelineRowsOf_subset (u : Poco.UInt64) (t : Table TimelineRow) :
    timelineRowsOf u t ⊆ t.rows :=
  (List.filter_sublist _).subset

theorem uploadRound_rows {u : Poco.UInt64} {t : Table TimelineRow}
    (hr : ∀ p ∈ timelineBatchRows u t, Readable p ∧ p.1.toInt < 2147483648) :
    (((timelineBatchRows u t).map boundID).foldl Table.delete t).rows =
      t.rows.filter fun p => p ∉ timelineBatchRows u t := by
  have hsub : timelineBatchRows u t ⊆ t.rows :=
    fun p hp => timelineRowsOf_subset u t (List.mem_of_mem_take hp)
  have hids : (timelineBatchRows u t).map boundID = (timelineBatchRows u t).map Prod.fst :=
    List.map_congr_left fun p hp => boundID_of_lt (hr p hp).1 (hr p hp).2
  rw [foldl_delete_rows, hids]
  exact List.filter_congr fun p hp => by simp only [Table.fst_mem_map_iff hsub hp]

/-- The queue drains a user's events exactly once, in order, a hundred at a time. With no
SQLite call failing and every row of the user readable with an `id` below `2^31`, `n` rounds
send the user's first `100 * n` events, each once and in the table's order, and leave the table
with exactly the other rows, in their order; after `⌈N / 100⌉` rounds none of the user's `N`
rows is left. -/
theorem uploadRounds_drain {u : Poco.UInt64} (hu : 0 < u.toNat) (n : Nat) {s : TimelineWorld}
    (hf : s.world.faults = [])
    (hr : ∀ p ∈ timelineRowsOf u s.events, Readable p ∧ p.1.toInt < 2147483648) :
    ∃ batches s', (uploadRounds u n).run s = .ok batches s' ∧
      batches.flatten = ((timelineRowsOf u s.events).take (100 * n)).map (readEvent u) ∧
      s'.events.rows =
        s.events.rows.filter fun p => p ∉ (timelineRowsOf u s.events).take (100 * n) := by
  induction n generalizing s with
  | zero => exact ⟨[], s, rfl, rfl, by simp⟩
  | succ n ih =>
    have hT : ∀ p ∈ timelineBatchRows u s.events, Readable p ∧ p.1.toInt < 2147483648 :=
      fun p hp => hr p (List.mem_of_mem_take hp)
    have hround := uploadRound_run hu hf fun p hp => (hT p hp).1
    have hrows := uploadRound_rows hT
    have hU : timelineRowsOf u (((timelineBatchRows u s.events).map boundID).foldl
        Table.delete s.events) = (timelineRowsOf u s.events).drop 100 := by
      rw [timelineRowsOf, hrows, List.filter_comm]
      exact filter_not_mem_take (timelineRowsOf_nodup u s.events) 100
    obtain ⟨batches, s', hrun, hflat, hrows'⟩ := ih (s := ⟨s.world.pass, _⟩)
      (by simp [World.pass, hf]) (by rw [hU]; exact fun p hp => hr p (List.mem_of_mem_drop hp))
    have htake : (timelineRowsOf u s.events).take (100 * (n + 1)) =
        timelineBatchRows u s.events ++ ((timelineRowsOf u s.events).drop 100).take (100 * n) := by
      rw [show 100 * (n + 1) = 100 + 100 * n by omega, List.take_add]
      rfl
    refine ⟨(timelineBatchRows u s.events).map (readEvent u) :: batches, s', ?_, ?_, ?_⟩
    · rw [uploadRounds, run_bind_ok hround, run_bind_ok hrun]
      rfl
    · rw [List.flatten_cons, hflat, hU, htake, List.map_append]
    · rw [hrows', hU, htake, hrows, List.filter_filter]
      exact List.filter_congr fun p _ => by simp [Bool.and_comm]

/-- Two events of user 1 and one of user 2: a round sends user 1's two and leaves user 2's. -/
theorem uploadRounds_drain_twoUsers :
    0 < (1 : Poco.UInt64).toNat ∧ ({} : World).faults = [] ∧
      (∀ p ∈ timelineRowsOf 1 ⟨[(1, ⟨1, "Terminal", "bash", 100, 160, false⟩),
          (2, ⟨2, "Editor", "code", 120, 180, false⟩), (3, ⟨1, "Browser", "web", 200, 260, true⟩)],
          by decide⟩, Readable p ∧ p.1.toInt < 2147483648) ∧
      ∃ batches s', (uploadRounds 1 1).run ⟨{}, ⟨[(1, ⟨1, "Terminal", "bash", 100, 160, false⟩),
          (2, ⟨2, "Editor", "code", 120, 180, false⟩), (3, ⟨1, "Browser", "web", 200, 260, true⟩)],
          by decide⟩⟩ = .ok batches s' ∧
        batches.flatten = [readEvent 1 (1, ⟨1, "Terminal", "bash", 100, 160, false⟩),
          readEvent 1 (3, ⟨1, "Browser", "web", 200, 260, true⟩)] ∧
        s'.events.rows = [(2, ⟨2, "Editor", "code", 120, 180, false⟩)] := by
  have hr : ∀ p ∈ timelineRowsOf 1 ⟨[(1, ⟨1, "Terminal", "bash", 100, 160, false⟩),
      (2, ⟨2, "Editor", "code", 120, 180, false⟩), (3, ⟨1, "Browser", "web", 200, 260, true⟩)],
      by decide⟩, Readable p ∧ p.1.toInt < 2147483648 := by decide
  obtain ⟨batches, s', hrun, hflat, hrows⟩ :=
    uploadRounds_drain (u := 1) (s := ⟨{}, _⟩) (by decide) 1 rfl hr
  exact ⟨by decide, rfl, hr, batches, s', hrun, hflat, hrows⟩

/-- An `id` of `2^31` or more is never deleted. With no SQLite call failing and every row of
the user readable, when the user's first row has such an `id`, `delete_timeline_batch` binds it
as a negative `int` and deletes nothing for it: every round sends it again, first in its batch,
and it stays in the table. -/
theorem uploadRounds_redeliver {u : Poco.UInt64} (hu : 0 < u.toNat) (n : Nat) {s : TimelineWorld}
    (hf : s.world.faults = []) (hr : ∀ p ∈ timelineRowsOf u s.events, Readable p)
    {q : Poco.Int64 × TimelineRow} (hq : (timelineRowsOf u s.events).head? = some q)
    (hbig : 2147483648 ≤ q.1.toInt) :
    ∃ batches s', (uploadRounds u n).run s = .ok batches s' ∧ batches.length = n ∧
      (∀ b ∈ batches, b.head? = some (readEvent u q)) ∧ q ∈ s'.events.rows := by
  induction n generalizing s with
  | zero =>
    exact ⟨[], s, rfl, rfl, by simp,
      timelineRowsOf_subset u s.events (List.mem_of_mem_head? hq)⟩
  | succ n ih =>
    obtain ⟨U, hU⟩ : ∃ U, timelineRowsOf u s.events = q :: U := List.head?_eq_some_iff.1 hq
    have hround := uploadRound_run hu hf fun p hp => hr p (List.mem_of_mem_take hp)
    have hkeep : q.1 ∉ (timelineBatchRows u s.events).map boundID := fun h => by
      obtain ⟨r, hr', hrq⟩ := List.mem_map.1 h
      have hrd := hr r (List.mem_of_mem_take hr')
      have hq0 : 0 ≤ q.1.toInt := (hr q (by rw [hU]; exact List.mem_cons_self _ _)).1
      obtain ⟨h₁, h₂⟩ := boundID_of_nonneg hrd (by rw [hrq]; exact hq0)
      rw [← hrq.symm.trans h₁] at h₂
      omega
    have hU₁ : timelineRowsOf u (((timelineBatchRows u s.events).map boundID).foldl
        Table.delete s.events) =
          q :: U.filter fun p => p.1 ∉ (timelineBatchRows u s.events).map boundID := by
      rw [timelineRowsOf, foldl_delete_rows, List.filter_comm]
      change (timelineRowsOf u s.events).filter _ = _
      rw [hU, List.filter_cons_of_pos (by simpa using hkeep)]
    obtain ⟨batches, s', hrun, hlen, hhead, hmem⟩ := ih (s := ⟨s.world.pass, _⟩)
      (by simp [World.pass, hf])
      (by rw [hU₁]; exact fun p hp => hr p (by
        rw [hU]; exact List.mem_cons.2 ((List.mem_cons.1 hp).imp_right List.mem_of_mem_filter)))
      (by rw [hU₁]; rfl)
    refine ⟨(timelineBatchRows u s.events).map (readEvent u) :: batches, s', ?_, by simp [hlen],
      ?_, hmem⟩
    · rw [uploadRounds, run_bind_ok hround, run_bind_ok hrun]
      rfl
    · intro b hb
      rcases List.mem_cons.1 hb with rfl | hb
      · rw [timelineBatchRows, hU]
        rfl
      · exact hhead b hb

/-- An event under rowid `2^31`: two rounds send it twice, and it stays. -/
theorem uploadRounds_redeliver_highID :
    0 < (1 : Poco.UInt64).toNat ∧ ({} : World).faults = [] ∧
      (∀ p ∈ timelineRowsOf 1 ⟨[(2147483648, ⟨1, "Terminal", "bash", 100, 160, false⟩)], by decide⟩,
        Readable p) ∧
      (timelineRowsOf 1 ⟨[(2147483648, ⟨1, "Terminal", "bash", 100, 160, false⟩)], by decide⟩).head? =
        some (2147483648, ⟨1, "Terminal", "bash", 100, 160, false⟩) ∧
      2147483648 ≤ (2147483648 : Poco.Int64).toInt ∧
      ∃ batches s', (uploadRounds 1 2).run
          ⟨{}, ⟨[(2147483648, ⟨1, "Terminal", "bash", 100, 160, false⟩)], by decide⟩⟩ =
          .ok batches s' ∧ batches.length = 2 ∧
        (∀ b ∈ batches,
          b.head? = some (readEvent 1 (2147483648, ⟨1, "Terminal", "bash", 100, 160, false⟩))) ∧
        (2147483648, ⟨1, "Terminal", "bash", 100, 160, false⟩) ∈ s'.events.rows := by
  have hr : ∀ p ∈ timelineRowsOf 1
      ⟨[(2147483648, ⟨1, "Terminal", "bash", 100, 160, false⟩)], by decide⟩, Readable p := by
    decide
  exact ⟨by decide, rfl, hr, rfl, by decide,
    uploadRounds_redeliver (u := 1) (s := ⟨{}, _⟩) (by decide) 2 rfl hr rfl (by decide)⟩

/-! ### From the recorder to the uploader -/

theorem readEvent_row {u : Poco.UInt64} {e : TimelineEvent} (hu : e.userID = u.setWidth 32)
    (r : Poco.Int64) : readEvent u (r, e.row) = { e with id := r.setWidth 32 } := by
  rw [hu]
  rfl

/-- The events read from the rows written for a list of events are those events, up to their
ids. -/
theorem readEvent_rows {u : Poco.UInt64} {new : List (Poco.Int64 × TimelineRow)}
    {es : List TimelineEvent} (h : new.map (·.2) = es.map TimelineEvent.row)
    (hu : ∀ e ∈ es, e.userID = u.setWidth 32) :
    (new.map (readEvent u)).map (fun e => { e with id := 0 }) =
      es.map (fun e => { e with id := 0 }) := by
  induction es generalizing new with
  | nil => cases new <;> simp_all
  | cons e es ih =>
    cases new with
    | nil => simp at h
    | cons p new =>
      obtain ⟨r, row⟩ := p
      simp only [List.map_cons, List.cons.injEq] at h ⊢
      obtain ⟨rfl, h⟩ := h
      exact ⟨by rw [readEvent_row (hu e (List.mem_cons_self _ _))],
        ih h fun e' he' => hu e' (List.mem_cons_of_mem _ he')⟩

theorem eq_of_setWidth_eq {x y : Poco.Int64} (hx : FitsInt x) (hy : FitsInt y)
    (h : x.setWidth 32 = y.setWidth 32) : x = y := by
  rw [← signExtend_setWidth_of_fitsInt hx, ← signExtend_setWidth_of_fitsInt hy, h]

theorem handleTimelineEventNotification_run {s : TimelineWorld} {event : TimelineEvent}
    (hu : 0 < event.userID.toNat) (hs : 0 < event.startTime.toInt) (he : 0 < event.endTime.toInt)
    (hf : s.world.faults = []) (ha : s.events.append event.row = some (r, events)) :
    (handleTimelineEventNotification event).run s =
      .ok () { world := { s.world.pass with lastRowid := r }, events := events } := by
  rw [handleTimelineEventNotification, run_bind, insertTimelineEvent_eq, if_neg (not_not.2 hu),
    if_neg (not_not.2 hs), if_neg (not_not.2 he), if_neg (by simp [hf])]
  simp only [ha]
  rfl

theorem recordEvents_run (es : List TimelineEvent) {s : TimelineWorld} (hf : s.world.faults = [])
    (hes : ∀ e ∈ es, 0 < e.userID.toNat ∧ 0 < e.startTime.toInt ∧ 0 < e.endTime.toInt)
    (hid : s.events.maxRowid + es.length < 2147483648) :
    ∃ s₁ new, (es.forM handleTimelineEventNotification).run s = .ok () s₁ ∧
      s₁.world.faults = [] ∧ s₁.world.desktopID = s.world.desktopID ∧
      s₁.events.rows = s.events.rows ++ new ∧ new.map (·.2) = es.map TimelineEvent.row ∧
      ∀ p ∈ new, s.events.maxRowid < p.1.toInt ∧ p.1.toInt < 2147483648 := by
  induction es generalizing s with
  | nil => exact ⟨s, [], rfl, hf, rfl, by simp, rfl, by simp⟩
  | cons e es ih =>
    obtain ⟨hu, hs, he⟩ := hes e (List.mem_cons_self _ _)
    simp only [List.length_cons] at hid
    obtain ⟨r, events, ha, hr, hrows, hmax⟩ := s.events.append_of_lt (by omega) e.row
    obtain ⟨s₁, new, hrun, hf₁, hd₁, hrows₁, hnew, hbound⟩ :=
      ih (s := ⟨{ s.world.pass with lastRowid := r }, events⟩) (by simp [World.pass, hf])
        (fun e' he' => hes e' (List.mem_cons_of_mem _ he')) (by dsimp only; omega)
    dsimp only at hrows₁ hbound
    refine ⟨s₁, (r, e.row) :: new, ?_, hf₁, hd₁, by simp [hrows₁, hrows], by simp [hnew],
      fun p hp => ?_⟩
    · rw [List.forM_cons', run_bind_ok (handleTimelineEventNotification_run hu hs he hf ha)]
      exact hrun
    · rcases List.mem_cons.1 hp with rfl | hp
      · dsimp only
        omega
      · have := hbound p hp
        omega

/-- The recorder's events reach the uploader as they were recorded. With no SQLite call
failing, from a store where the user has no event queued, once the user's events are recorded
in turn the next batch request posts the first hundred of them, in order, each with its user,
title, filename, times and idle flag as recorded, under distinct ids, and with the
installation's desktop ID; as long as the user's ID, every time and the rowids stay below `2^31`
(the user's ID is bound as an `Int32`, the times are read back as `int`). -/
theorem recordedEvents_posted {u : Poco.UInt64} (hu : 0 < u.toNat) (hu' : u.toNat < 2147483648)
    (es : List TimelineEvent)
    (hne : es ≠ []) {s : TimelineWorld} (hf : s.world.faults = [])
    (hnone : timelineRowsOf u s.events = [])
    (hes : ∀ e ∈ es, e.userID.setWidth 64 = u ∧ 0 < e.startTime.toInt ∧
      e.startTime.toInt < 2147483648 ∧ 0 < e.endTime.toInt ∧ e.endTime.toInt < 2147483648)
    (hid : s.events.maxRowid + es.length < 2147483648) :
    ∃ batch s₁ s₂, (es.forM handleTimelineEventNotification).run s = .ok () s₁ ∧
      (handleCreateTimelineBatchNotification u).run s₁ =
        .ok (some ⟨u, batch, s.world.desktopID⟩) s₂ ∧
      batch.map (fun e => { e with id := 0 }) = (es.take 100).map (fun e => { e with id := 0 }) ∧
      (batch.map (·.id)).Nodup := by
  have huser : ∀ e ∈ es, e.userID = u.setWidth 32 ∧ 0 < e.userID.toNat ∧
      e.userID.signExtend 64 = u := fun e he => by
    have h := congrArg BitVec.toNat (hes e he).1
    rw [BitVec.toNat_setWidth, Nat.mod_eq_of_lt (by have := e.userID.isLt; omega)] at h
    refine ⟨?_, by omega, by rw [signExtend_of_lt (by omega), (hes e he).1]⟩
    rw [← (hes e he).1, BitVec.setWidth_setWidth_of_le _ (by omega), BitVec.setWidth_eq]
  obtain ⟨s₁, new, hrun, hf₁, hd₁, hrows₁, hnew, hbound⟩ := recordEvents_run es hf
    (fun e he => ⟨(huser e he).2.1, (hes e he).2.1, (hes e he).2.2.2.1⟩) hid
  have hmem : ∀ p ∈ new, ∃ e ∈ es, e.row = p.2 := fun p hp =>
    List.mem_map.1 (hnew ▸ List.mem_map_of_mem (·.2) hp)
  have hU : timelineRowsOf u s₁.events = new := by
    unfold timelineRowsOf at hnone ⊢
    rw [hrows₁, List.filter_append, hnone, List.nil_append, List.filter_eq_self]
    intro p hp
    obtain ⟨e, he, hpe⟩ := hmem p hp
    simp [← hpe, TimelineEvent.row, (huser e he).2.2]
  have hread : ∀ p ∈ new, Readable p ∧ p.1.toInt < 2147483648 := by
    rintro ⟨r, row⟩ hp
    obtain ⟨h₁, h₂⟩ := hbound _ hp
    obtain ⟨e, he, rfl⟩ := hmem _ hp
    obtain ⟨-, hs₀, hs₁, he₀, he₁⟩ := hes e he
    have h₀ : 0 ≤ s.events.maxRowid := (Table.le_maxRowid_aux _ 0).1
    dsimp only at h₁ h₂
    show (0 ≤ r.toInt ∧ r.toInt ≤ 4294967295 ∧ FitsInt e.startTime ∧ FitsInt e.endTime) ∧
      r.toInt < 2147483648
    exact ⟨⟨by omega, by omega, ⟨by omega, by omega⟩, ⟨by omega, by omega⟩⟩, h₂⟩
  have hb : (timelineBatchRows u s₁.events).mapM (readTimelineEvent u) =
      .ok ((new.take 100).map (readEvent u)) := by
    rw [timelineBatchRows, hU]
    exact mapM_readTimelineEvent (fun p hp => (hread p (List.mem_of_mem_take hp)).1) u
  have hne' : ((new.take 100).map (readEvent u)).isEmpty = false := by
    have hlen := congrArg List.length hnew
    cases es with
    | nil => exact absurd rfl hne
    | cons e es => cases new <;> simp_all
  refine ⟨(new.take 100).map (readEvent u), s₁, { s₁ with world := s₁.world.pass }, hrun, ?_, ?_,
    ?_⟩
  · rw [handleCreateTimelineBatchNotification_run hu (by simp [hf₁]) hb, hne', hd₁]
    rfl
  · exact readEvent_rows (by rw [List.map_take, hnew, List.map_take])
      fun e he => (huser e (List.mem_of_mem_take he)).1
  · have hnodup : (new.map Prod.fst).Nodup := by
      have := s₁.events.nodup
      rw [hrows₁, List.map_append] at this
      exact (List.nodup_append.1 this).2.1
    have hfits : ∀ x ∈ (new.take 100).map Prod.fst, FitsInt x := fun x hx => by
      obtain ⟨p, hp, rfl⟩ := List.mem_map.1 hx
      obtain ⟨⟨h₀, -⟩, h₁⟩ := hread p (List.mem_of_mem_take hp)
      exact ⟨by omega, by omega⟩
    have h := ((List.take_sublist 100 new).map Prod.fst |>.nodup hnodup).map_on
      (f := fun x : Poco.Int64 => x.setWidth 32)
      fun x hx y hy => eq_of_setWidth_eq (hfits x hx) (hfits y hy)
    rw [List.map_map] at h ⊢
    exact h

/-- One event of user 1, recorded on an empty table, is posted as it was, under rowid 1. -/
theorem recordedEvents_posted_terminal :
    ∃ batch s₁ s₂, (([⟨0, 1, "Terminal", "bash", 100, 160, false⟩] : List TimelineEvent).forM
        handleTimelineEventNotification).run ⟨{}, Table.empty⟩ = .ok () s₁ ∧
      (handleCreateTimelineBatchNotification 1).run s₁ = .ok (some ⟨1, batch, ""⟩) s₂ ∧
      batch.map (fun e => { e with id := 0 }) = [⟨0, 1, "Terminal", "bash", 100, 160, false⟩] ∧
      (batch.map (·.id)).Nodup :=
  recordedEvents_posted (u := 1) (by decide) (by decide) _ (List.cons_ne_nil _ _)
    (s := ⟨{}, Table.empty⟩) rfl rfl (by decide) (by decide)

/-- Where the uploader is: idle, or holding a batch posted to it until it is sent. -/
inductive Uploader
  | idle
  | sending (batch : List TimelineEvent)

/-- The queue as a system: the store, the uploader, and two ghost logs, every row the table
has held and every event posted in a batch. -/
structure Queue where
  store : TimelineWorld
  uploader : Uploader
  held : List (Poco.Int64 × TimelineRow)
  posted : List TimelineEvent

/-- The notifications, in any order the recorder and one uploader send them, with any SQLite
call failing; each `Database` call holds the mutex, so calls interleave whole. The uploader asks
for a batch only when it holds none, has a batch deleted only once it was posted to it, and may
drop a batch it could not send. -/
inductive QueueStep : Queue → Queue → Prop
  | record (event : TimelineEvent) (s' : TimelineWorld)
      (h : finalState ((handleTimelineEventNotification event).run s) = s') :
      QueueStep ⟨s, up, held, posted⟩ ⟨s', up, held ++ s'.events.rows, posted⟩
  | post (userID : Poco.UInt64) (ready : TimelineBatchReady) (s' : TimelineWorld)
      (h : (handleCreateTimelineBatchNotification userID).run s = .ok (some ready) s') :
      QueueStep ⟨s, .idle, held, posted⟩ ⟨s', .sending ready.batch, held, posted ++ ready.batch⟩
  | quiet (userID : Poco.UInt64)
      (h : ∀ ready s', (handleCreateTimelineBatchNotification userID).run s ≠ .ok (some ready) s') :
      QueueStep ⟨s, .idle, held, posted⟩
        ⟨finalState ((handleCreateTimelineBatchNotification userID).run s), .idle, held, posted⟩
  | delete (batch : List TimelineEvent) :
      QueueStep ⟨s, .sending batch, held, posted⟩
        ⟨finalState ((handleDeleteTimelineBatchNotification batch).run s), .idle, held, posted⟩
  | drop (batch : List TimelineEvent) :
      QueueStep ⟨s, .sending batch, held, posted⟩ ⟨s, .idle, held, posted⟩

/-- An event is the one `select_timeline_batch` reads from a row, for some user. -/
def Delivers (e : TimelineEvent) (p : Poco.Int64 × TimelineRow) : Prop :=
  ∃ u, readTimelineEvent u p = .ok e

/-- Nothing is lost: every row the table has held is still there or was posted; a batch being
sent was posted and is read from rows still in the table; and no rowid is negative. -/
structure NoLoss (q : Queue) : Prop where
  nonneg : ∀ p ∈ q.store.events.rows, 0 ≤ p.1.toInt
  kept : ∀ p ∈ q.held, p ∈ q.store.events.rows ∨ ∃ e ∈ q.posted, Delivers e p
  sending : ∀ batch, q.uploader = .sending batch →
    ∀ e ∈ batch, e ∈ q.posted ∧ ∃ p ∈ q.store.events.rows, Delivers e p

theorem eq_of_delivers {t : Table TimelineRow} (hnn : ∀ p ∈ t.rows, 0 ≤ p.1.toInt)
    {e : TimelineEvent} {r p : Poco.Int64 × TimelineRow} (hr : r ∈ t.rows) (he : Delivers e r)
    (hp : p ∈ t.rows) (hid : p.1 = e.id.signExtend 64) : r = p := by
  obtain ⟨u, hu⟩ := he
  obtain ⟨hrd, rfl⟩ := readTimelineEvent_ok hu
  have hid' : p.1 = boundID r := hid
  obtain ⟨hb, -⟩ := boundID_of_nonneg hrd (hid' ▸ hnn p hp)
  exact List.inj_on_of_nodup_map t.nodup hr hp (hb.symm.trans hid'.symm)

theorem NoLoss.step (h : NoLoss q) (hs : QueueStep q q') : NoLoss q' := by
  cases hs with
  | @record s _ _ _ event s' hs' =>
    have hrows := handleTimelineEventNotification_rows (s := s) event
    rw [hs'] at hrows
    have hsub : s.events.rows ⊆ s'.events.rows := by
      rcases hrows with hr | ⟨r, row, -, hr⟩ <;> rw [hr]
      exacts [List.Subset.refl _, List.subset_append_left _ _]
    refine ⟨fun p hp => ?_, fun p hp => ?_, fun batch hb e he => ?_⟩
    · rcases hrows with hr | ⟨r, row, hr0, hr⟩ <;> rw [hr] at hp
      · exact h.nonneg p hp
      · rcases List.mem_append.1 hp with hp | hp
        · exact h.nonneg p hp
        · rw [List.mem_singleton.1 hp]
          exact hr0.le
    · rcases List.mem_append.1 hp with hp | hp
      · exact (h.kept p hp).imp_left fun hp => hsub hp
      · exact .inl hp
    · obtain ⟨hpost, p, hp, hd⟩ := h.sending batch hb e he
      exact ⟨hpost, p, hsub hp, hd⟩
  | @post s _ _ userID ready s' hs' =>
    obtain ⟨hev, hbatch⟩ := handleCreateTimelineBatchNotification_events (s := s) userID
    rw [hs'] at hev
    simp only [finalState] at hev
    refine ⟨fun p hp => h.nonneg p (hev ▸ hp), fun p hp => ?_, fun batch hb e he => ?_⟩
    · rcases h.kept p hp with hp | ⟨e, he, hd⟩
      · exact .inl (hev ▸ hp)
      · exact .inr ⟨e, List.mem_append_left _ he, hd⟩
    · cases hb
      obtain ⟨p, hp, hd⟩ := exists_of_mapM_ok (hbatch ready s' hs') e he
      exact ⟨List.mem_append_right _ he, p,
        hev ▸ timelineRowsOf_subset userID _ (List.mem_of_mem_take hp), userID, hd⟩
  | @quiet s _ _ userID _ =>
    have hev := (handleCreateTimelineBatchNotification_events (s := s) userID).1
    exact ⟨fun p hp => h.nonneg p (hev ▸ hp), fun p hp => hev ▸ h.kept p hp,
      fun _ hb => nomatch hb⟩
  | @delete s _ _ batch =>
    obtain ⟨k, hk⟩ := handleDeleteTimelineBatchNotification_rows (s := s) batch
    refine ⟨fun p hp => h.nonneg p (List.mem_of_mem_filter (hk ▸ hp)), fun p hp => ?_,
      fun _ hb => nomatch hb⟩
    rcases h.kept p hp with hp | hd
    · by_cases hp' :
          p ∈ (finalState ((handleDeleteTimelineBatchNotification batch).run s)).events.rows
      · exact .inl hp'
      · rw [hk, List.mem_filter] at hp'
        have hmem : p.1 ∈ (batch.map (·.id)).map (·.signExtend 64) :=
          List.mem_of_mem_take (by simpa [hp] using hp')
        obtain ⟨e, he, hid⟩ : ∃ e ∈ batch, e.id.signExtend 64 = p.1 := by simpa using hmem
        obtain ⟨hpost, r, hr, hd⟩ := h.sending batch rfl e he
        exact .inr ⟨e, hpost, eq_of_delivers h.nonneg hr hd hp hid.symm ▸ hd⟩
    · exact .inr hd
  | drop batch => exact ⟨h.nonneg, h.kept, fun _ hb => nomatch hb⟩

theorem NoLoss.run (hr : Relation.ReflTransGen QueueStep q q') (h : NoLoss q) : NoLoss q' := by
  induction hr with
  | refl => exact h
  | tail _ hs ih => exact ih.step hs

/-- No recorded event is lost. Along any interleaving of the three notifications, with any
SQLite call failing and with the uploader dropping any batch it cannot send, from a table with no
negative rowid, every row the table has held is still in it or was read into a posted batch:
`delete_timeline_batch` removes only rows a batch being sent was read from. -/
theorem timelineQueue_no_loss (s : TimelineWorld) (hnn : ∀ p ∈ s.events.rows, 0 ≤ p.1.toInt)
    (hr : Relation.ReflTransGen QueueStep ⟨s, .idle, s.events.rows, []⟩ q) :
    ∀ p ∈ q.held, p ∈ q.store.events.rows ∨ ∃ e ∈ q.posted, ∃ u, readTimelineEvent u p = .ok e :=
  (NoLoss.run hr ⟨hnn, fun _ hp => .inl hp, fun _ hb => nomatch hb⟩).kept

/-- One event recorded, posted in a batch and deleted: the table is empty again, and the row it
held was posted. -/
theorem timelineQueue_no_loss_recordSendDelete :
    (∀ p ∈ (Table.empty : Table TimelineRow).rows, 0 ≤ p.1.toInt) ∧
      ∃ q, Relation.ReflTransGen QueueStep ⟨⟨{}, .empty⟩, .idle, [], []⟩ q ∧
        q.store.events.rows = [] ∧ q.held ≠ [] ∧
        ∀ p ∈ q.held, p ∈ q.store.events.rows ∨ ∃ e ∈ q.posted, ∃ u, readTimelineEvent u p = .ok e := by
  have hnn : ∀ p ∈ (Table.empty : Table TimelineRow).rows, 0 ≤ p.1.toInt := fun _ h => nomatch h
  obtain ⟨q, hr, hrows, hheld⟩ :
      ∃ q, Relation.ReflTransGen QueueStep ⟨⟨{}, .empty⟩, .idle, [], []⟩ q ∧
      q.store.events.rows = [] ∧ q.held ≠ [] :=
    ⟨_, .tail (.tail (.single (QueueStep.record ⟨0, 1, "Terminal", "bash", 100, 160, false⟩ _ rfl))
      (QueueStep.post 1 _ _ rfl)) (QueueStep.delete _), rfl, by decide⟩
  exact ⟨hnn, q, hr, hrows, hheld, timelineQueue_no_loss ⟨{}, .empty⟩ hnn hr⟩

/-! ### A row the select cannot convert -/

theorem mapM_readTimelineEvent_error {l : List (Poco.Int64 × TimelineRow)}
    {p : Poco.Int64 × TimelineRow} (hp : p ∈ l) (hbad : ¬ Readable p) (u : Poco.UInt64) :
    ∃ e, l.mapM (readTimelineEvent u) = .error e := by
  induction l with
  | nil => cases hp
  | cons a l ih =>
    rw [List.mapM_cons]
    cases ha : readTimelineEvent u a with
    | error e => exact ⟨e, rfl⟩
    | ok b =>
      have hl : p ∈ l := by
        rcases List.mem_cons.1 hp with rfl | hl
        · exact absurd (readTimelineEvent_ok ha).1 hbad
        · exact hl
      obtain ⟨e, he⟩ := ih hl
      exact ⟨e, by rw [he]; rfl⟩

/-- A request for a batch raises while one of the rows it would send does not convert. -/
theorem handleCreateTimelineBatchNotification_raises {s : TimelineWorld} {u : Poco.UInt64}
    {p : Poco.Int64 × TimelineRow} (hp : p ∈ timelineBatchRows u s.events) (hbad : ¬ Readable p) :
    ∃ e s', (handleCreateTimelineBatchNotification u).run s = .error e s' := by
  obtain ⟨e, he⟩ := mapM_readTimelineEvent_error hp hbad u
  rw [handleCreateTimelineBatchNotification, run_bind, selectTimelineBatch_eq]
  split_ifs <;> try exact ⟨_, _, rfl⟩
  simp only [he]
  exact ⟨_, _, rfl⟩

theorem mem_timelineBatchRows_append {t t' : Table TimelineRow} {u : Poco.UInt64}
    {p : Poco.Int64 × TimelineRow} (hp : p ∈ timelineBatchRows u t) (new : List _)
    (h : t'.rows = t.rows ++ new) : p ∈ timelineBatchRows u t' := by
  rw [timelineBatchRows, timelineRowsOf, h, List.filter_append, List.take_append_eq_append_take]
  exact List.mem_append_left _ hp

/-- A stuck row: among the user's first hundred rows, with a batch being sent read from rows of
other users only. -/
structure Stalled (u : Poco.UInt64) (p : Poco.Int64 × TimelineRow) (q : Queue) : Prop where
  nonneg : ∀ r ∈ q.store.events.rows, 0 ≤ r.1.toInt
  front : p ∈ timelineBatchRows u q.store.events
  sending : ∀ batch, q.uploader = .sending batch →
    ∀ e ∈ batch, ∃ r ∈ q.store.events.rows, r.2.userID ≠ u ∧ Delivers e r

theorem Stalled.step (hbad : ¬ Readable p) (h : Stalled u p q) (hs : QueueStep q q') :
    Stalled u p q' := by
  cases hs with
  | @record s _ _ _ event s' hs' =>
    have hrows := handleTimelineEventNotification_rows (s := s) event
    rw [hs'] at hrows
    rcases hrows with hr | ⟨r, row, hr0, hr⟩
    · exact ⟨fun r' hr' => h.nonneg r' (hr ▸ hr'),
        mem_timelineBatchRows_append h.front [] (by simp [hr]),
        fun batch hb e he => by
          obtain ⟨r', hr', hd⟩ := h.sending batch hb e he
          exact ⟨r', hr ▸ hr', hd⟩⟩
    · refine ⟨fun r' hr' => ?_, mem_timelineBatchRows_append h.front _ hr,
        fun batch hb e he => ?_⟩
      · rw [hr] at hr'
        rcases List.mem_append.1 hr' with hr' | hr'
        · exact h.nonneg r' hr'
        · rw [List.mem_singleton.1 hr']
          exact hr0.le
      · obtain ⟨r', hr', hd⟩ := h.sending batch hb e he
        exact ⟨r', hr ▸ List.mem_append_left _ hr', hd⟩
  | @post s _ _ userID ready s' hs' =>
    obtain ⟨hev, hbatch⟩ := handleCreateTimelineBatchNotification_events (s := s) userID
    rw [hs'] at hev
    simp only [finalState] at hev
    have hne : userID ≠ u := by
      rintro rfl
      obtain ⟨e, s'', h'⟩ := handleCreateTimelineBatchNotification_raises h.front hbad
      rw [h'] at hs'
      cases hs'
    refine ⟨fun r hr => h.nonneg r (hev ▸ hr), hev ▸ h.front, fun batch hb e he => ?_⟩
    cases hb
    obtain ⟨r, hr, hd⟩ := exists_of_mapM_ok (hbatch ready s' hs') e he
    have hr' := List.mem_of_mem_take hr
    rw [timelineRowsOf, List.mem_filter, decide_eq_true_eq] at hr'
    exact ⟨r, hev ▸ hr'.1, hr'.2 ▸ hne, userID, hd⟩
  | @quiet s _ _ userID _ =>
    have hev := (handleCreateTimelineBatchNotification_events (s := s) userID).1
    exact ⟨fun r hr => h.nonneg r (hev ▸ hr), hev ▸ h.front, fun _ hb => nomatch hb⟩
  | @delete s _ _ batch =>
    obtain ⟨k, hk⟩ := handleDeleteTimelineBatchNotification_rows (s := s) batch
    have hU : timelineRowsOf u
        (finalState ((handleDeleteTimelineBatchNotification batch).run s)).events =
        timelineRowsOf u s.events := by
      rw [timelineRowsOf, hk, List.filter_comm]
      refine List.filter_eq_self.2 fun r hr => ?_
      rw [List.mem_filter, decide_eq_true_eq] at hr
      refine decide_eq_true fun hid => ?_
      obtain ⟨e, he, hid⟩ : ∃ e ∈ batch, e.id.signExtend 64 = r.1 := by
        simpa using List.mem_of_mem_take hid
      obtain ⟨r', hr', hu', hd⟩ := h.sending batch rfl e he
      exact hu' (eq_of_delivers h.nonneg hr' hd hr.1 hid.symm ▸ hr.2)
    refine ⟨fun r hr => h.nonneg r (List.mem_of_mem_filter (hk ▸ hr)), ?_, fun _ hb => nomatch hb⟩
    rw [timelineBatchRows, hU]
    exact h.front
  | drop batch => exact ⟨h.nonneg, h.front, fun _ hb => nomatch hb⟩

theorem Stalled.run (hbad : ¬ Readable p) (hr : Relation.ReflTransGen QueueStep q q')
    (h : Stalled u p q) : Stalled u p q' := by
  induction hr with
  | refl => exact h
  | tail _ hs ih => exact ih.step hbad hs

/-- A row the select cannot convert stalls its user's queue for good. Along any interleaving of
the notifications, with any SQLite call failing, once a row whose `id` does not fit an `unsigned
int` or whose times do not fit an `int` (a `time_t` after 2038-01-19, say) is among a user's first
hundred rows, it stays there and every request for a batch of that user raises: no batch of the
user is posted again, and no row of the user is deleted. -/
theorem timelineQueue_stalls (s : TimelineWorld) (hnn : ∀ p ∈ s.events.rows, 0 ≤ p.1.toInt)
    {u : Poco.UInt64} {p : Poco.Int64 × TimelineRow} (hp : p ∈ timelineBatchRows u s.events)
    (hbad : ¬ Readable p) (hr : Relation.ReflTransGen QueueStep ⟨s, .idle, held, posted⟩ q) :
    p ∈ timelineBatchRows u q.store.events ∧
      ∃ e s', (handleCreateTimelineBatchNotification u).run q.store = .error e s' := by
  have h := Stalled.run hbad hr ⟨hnn, hp, fun _ hb => nomatch hb⟩
  exact ⟨h.front, handleCreateTimelineBatchNotification_raises h.front hbad⟩

/-- User 1's row starts after 2038: user 2's event is recorded, sent and deleted meanwhile, and
user 1's queue stays stuck. -/
theorem timelineQueue_stalls_after2038 :
    (∀ p ∈ [((1 : Poco.Int64), (⟨1, "Terminal", "bash", 2147483648, 2147483700, false⟩ : TimelineRow))],
      0 ≤ p.1.toInt) ∧
      (1, ⟨1, "Terminal", "bash", 2147483648, 2147483700, false⟩) ∈ timelineBatchRows 1
        ⟨[(1, ⟨1, "Terminal", "bash", 2147483648, 2147483700, false⟩)], by decide⟩ ∧
      ¬ Readable (1, ⟨1, "Terminal", "bash", 2147483648, 2147483700, false⟩) ∧
      ∃ q, Relation.ReflTransGen QueueStep ⟨⟨{}, ⟨[(1, ⟨1, "Terminal", "bash", 2147483648,
          2147483700, false⟩)], by decide⟩⟩, .idle, [], []⟩ q ∧ q.uploader = .idle ∧
        (1, ⟨1, "Terminal", "bash", 2147483648, 2147483700, false⟩) ∈ timelineBatchRows 1
          q.store.events ∧
        ∃ e s', (handleCreateTimelineBatchNotification 1).run q.store = .error e s' := by
  have hnn : ∀ p ∈ [((1 : Poco.Int64), (⟨1, "Terminal", "bash", 2147483648, 2147483700, false⟩ :
      TimelineRow))], 0 ≤ p.1.toInt := by decide
  have hp : ((1 : Poco.Int64), (⟨1, "Terminal", "bash", 2147483648, 2147483700, false⟩ :
      TimelineRow)) ∈ timelineBatchRows 1
        ⟨[(1, ⟨1, "Terminal", "bash", 2147483648, 2147483700, false⟩)], by decide⟩ := by decide
  have hbad : ¬ Readable (1, ⟨1, "Terminal", "bash", 2147483648, 2147483700, false⟩) := by decide
  obtain ⟨q, hr, hq⟩ : ∃ q, Relation.ReflTransGen QueueStep ⟨⟨{}, ⟨[(1, ⟨1, "Terminal", "bash",
      2147483648, 2147483700, false⟩)], by decide⟩⟩, .idle, [], []⟩ q ∧ q.uploader = .idle :=
    ⟨_, .tail (.tail (.single (QueueStep.record ⟨0, 2, "Editor", "code", 100, 160, false⟩ _ rfl))
      (QueueStep.post 2 _ _ rfl)) (QueueStep.delete _), rfl⟩
  exact ⟨hnn, hp, hbad, q, hr, hq, timelineQueue_stalls ⟨{}, _⟩ hnn hp hbad hr⟩

end Kopsik
