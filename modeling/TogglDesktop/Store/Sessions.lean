import TogglDesktop.Store.Delete

namespace Kopsik
set_option autoImplicit true

/-! The login session. `sessions` holds the API token of the user who is logged in; every row
gets `active` 1 and a unique index stands on `active`, so the table holds at most one row.
The table sits beside the entity tables: the calls here take its contents and return what they
leave, and run their statements against the world of the entity tables. -/

/-- A `sessions` row. -/
structure SessionRow where
  apiToken : String
  active : Int
  deriving DecidableEq, Repr

/-- The token `select api_token from sessions` reads with `limit(1)`, into a string that
`CurrentAPIToken` first sets to empty. -/
def sessionToken (sessions : Table SessionRow) : String :=
  (sessions.rows.head?.map (·.2.apiToken)).getD ""

/-- `Database::CurrentAPIToken`. -/
def currentAPIToken (sessions : Table SessionRow) : DB (error × String) :=
  tryCatch
    (do
      sqlCall
      let err ← lastError "CurrentAPIToken"
      return (err, sessionToken sessions))
    fun exc => pure (exc.displayText, "")

/-- `Database::ClearCurrentAPIToken`: `delete from sessions`. -/
def clearCurrentAPIToken (sessions : Table SessionRow) : DB (error × Table SessionRow) :=
  tryCatch
    (do
      sqlCall
      let err ← lastError "ClearCurrentAPIToken"
      return (err, .empty))
    fun exc => pure (exc.displayText, sessions)

/-- `insert into sessions(api_token) values(:api_token)`: the row gets `active` 1, which the
unique index refuses when a row already has it. -/
def insertSession (apiToken : String) (sessions : Table SessionRow) : DB (Table SessionRow) := do
  sqlCall
  if sessions.rows.any (·.2.active = 1) then fail "constraint failed" else
  match sessions.append ⟨apiToken, 1⟩ with
  | none => fail "database or disk is full"
  | some (r, sessions') => do
    modify fun w => { w with lastRowid := r }
    return sessions'

/-- `Database::SetCurrentAPIToken`. -/
def setCurrentAPIToken (token : String) (sessions : Table SessionRow) :
    DB (error × Table SessionRow) := do
  let (err, sessions) ← clearCurrentAPIToken sessions
  if err ≠ noError then return (err, sessions) else
  tryCatch
    (do
      let sessions' ← insertSession token sessions
      let err ← lastError "SetCurrentAPIToken"
      return (err, sessions'))
    fun exc => pure (exc.displayText, sessions)

/-- `select id from users where api_token = :api_token` with `limit(1)`, into a `UInt64` that
starts at 0. -/
def selectIDByAPIToken (apiToken : String) : DB Poco.UInt64 := do
  sqlCall
  return (((← get).tables.users.rows.find? (·.2.apiToken = apiToken)).map (·.2.id)).getD 0

/-- `Database::LoadUserByAPIToken`: the token goes into the model first; with no user of that
token it returns `noError`, and otherwise loads the user by ID. -/
def loadUserByAPIToken (apiToken : String) (model : User) (withRelatedData : Bool) :
    DB (error × User) := do
  pocoAssert (apiToken ≠ "") "!api_token.empty()"
  let model := model.setAPIToken apiToken
  let r ← tryCatch
    (do
      let uid ← selectIDByAPIToken apiToken
      let err ← lastError "LoadUserByAPIToken"
      if err ≠ noError then return Sum.inl err
      else if uid = 0 then return .inl noError else return .inr uid)
    fun exc => pure (.inl exc.displayText)
  match r with
  | .inl err => return (err, model)
  | .inr uid => loadUserByID uid model withRelatedData

/-- `Database::LoadCurrentUser`. -/
def loadCurrentUser (sessions : Table SessionRow) (user : User) (withRelatedData : Bool) :
    DB (error × User) := do
  let (err, apiToken) ← currentAPIToken sessions
  if err ≠ noError then return (err, user)
  else if apiToken = "" then return (noError, user)
  else loadUserByAPIToken apiToken user withRelatedData

/-- The table that an insert into an empty table leaves. -/
def Table.single (localID : Poco.Int64) (row : R) : Table R := ⟨[(localID, row)], List.nodup_singleton _⟩

theorem Table.append_empty (row : R) : Table.empty.append row = some (1, .single 1 row) := by
  have h : Table.empty.newRowid (R := R) = some 1 := rfl
  unfold Table.append
  split
  · rename_i h'; rw [h] at h'; cases h'
  · rename_i r h'
    rw [h, Option.some.injEq] at h'
    subst h'
    rfl

section Spec

variable {w : World}

theorem currentAPIToken_eq {Q : error × String → World → Prop} {E : Exception → World → Prop}
    (sessions : Table SessionRow) :
    wp (currentAPIToken sessions) Q E w ↔
      if w.faults.head? = some true then Q ((Exception.sql "disk I/O error").displayText, "") w.fault
      else Q (noError, sessionToken sessions) w.pass := by
  simp only [currentAPIToken, wp_tryCatch, wp_bind, wp_sqlCall, wp_lastError, wp_pure]
  split_ifs <;> simp_all [noError]

theorem clearCurrentAPIToken_eq {Q : error × Table SessionRow → World → Prop}
    {E : Exception → World → Prop} (sessions : Table SessionRow) :
    wp (clearCurrentAPIToken sessions) Q E w ↔
      if w.faults.head? = some true then Q ((Exception.sql "disk I/O error").displayText, sessions) w.fault
      else Q (noError, .empty) w.pass := by
  simp only [clearCurrentAPIToken, wp_tryCatch, wp_bind, wp_sqlCall, wp_lastError, wp_pure]
  split_ifs <;> simp_all [noError]

theorem insertSession_empty_eq {Q : Table SessionRow → World → Prop}
    {E : Exception → World → Prop} (token : String) :
    wp (insertSession token .empty) Q E w ↔
      if w.faults.head? = some true then E (.sql "disk I/O error") w.fault
      else Q (.single 1 ⟨token, 1⟩) { w.pass with lastRowid := 1 } := by
  have hnone : (Table.empty.rows.any fun p : Poco.Int64 × SessionRow => p.2.active = 1) = false :=
    rfl
  simp only [insertSession, wp_bind, wp_sqlCall, hnone, Bool.false_eq_true, ↓reduceIte,
    Table.append_empty]
  split_ifs <;> rfl

theorem setCurrentAPIToken_eq {Q : error × Table SessionRow → World → Prop}
    {E : Exception → World → Prop} (token : String) (sessions : Table SessionRow) :
    wp (setCurrentAPIToken token sessions) Q E w ↔
      if w.faults.head? = some true then Q ((Exception.sql "disk I/O error").displayText, sessions) w.fault
      else if w.pass.faults.head? = some true then
        Q ((Exception.sql "disk I/O error").displayText, .empty) w.pass.fault
      else Q (noError, .single 1 ⟨token, 1⟩) { w.pass.pass with lastRowid := 1 } := by
  rw [setCurrentAPIToken, wp_bind, clearCurrentAPIToken_eq]
  split_ifs with h₁ h₂
  · simp [Exception.displayText_ne_noError]
  · simp only [ne_eq, not_true_eq_false, ↓reduceIte, wp_tryCatch, wp_bind, insertSession_empty_eq,
      h₂, wp_pure]
  · simp only [ne_eq, not_true_eq_false, ↓reduceIte, wp_tryCatch, wp_bind, insertSession_empty_eq,
      h₂, wp_lastError, wp_pure]
    rfl

theorem selectIDByAPIToken_eq {Q : Poco.UInt64 → World → Prop} {E : Exception → World → Prop}
    (apiToken : String) :
    wp (selectIDByAPIToken apiToken) Q E w ↔
      if w.faults.head? = some true then E (.sql "disk I/O error") w.fault
      else Q (((w.tables.users.rows.find? (·.2.apiToken = apiToken)).map (·.2.id)).getD 0) w.pass := by
  simp only [selectIDByAPIToken, wp_bind, wp_sqlCall]
  split_ifs <;> rfl

theorem loadUserByAPIToken_eq {Q : error × User → World → Prop} {E : Exception → World → Prop}
    (apiToken : String) (model : User) (b : Bool) (ht : apiToken ≠ "") :
    wp (loadUserByAPIToken apiToken model b) Q E w ↔
      if w.faults.head? = some true then
        Q ((Exception.sql "disk I/O error").displayText, model.setAPIToken apiToken) w.fault
      else
        let uid := ((w.tables.users.rows.find? (·.2.apiToken = apiToken)).map (·.2.id)).getD 0
        if uid = 0 then Q (noError, model.setAPIToken apiToken) w.pass
        else wp (loadUserByID uid (model.setAPIToken apiToken) b) Q E w.pass := by
  simp only [loadUserByAPIToken, pocoAssert, ht, ne_eq, not_false_eq_true, decide_True,
    ↓reduceIte, wp_bind, wp_pure, wp_tryCatch, selectIDByAPIToken_eq, wp_lastError,
    World.pass_lastMessage, not_true_eq_false]
  split_ifs <;> rfl

theorem loadCurrentUser_eq {Q : error × User → World → Prop} {E : Exception → World → Prop}
    (sessions : Table SessionRow) (user : User) (b : Bool) :
    wp (loadCurrentUser sessions user b) Q E w ↔
      if w.faults.head? = some true then Q ((Exception.sql "disk I/O error").displayText, user) w.fault
      else if sessionToken sessions = "" then Q (noError, user) w.pass
      else wp (loadUserByAPIToken (sessionToken sessions) user b) Q E w.pass := by
  rw [loadCurrentUser, wp_bind, currentAPIToken_eq]
  split_ifs <;> simp_all [Exception.displayText_ne_noError]

end Spec

theorem firstError_congr (h : w₁.tables = w₀.tables) (UID : Poco.UInt64) (ks : List Kind) :
    firstError UID w₁ ks = firstError UID w₀ ks := by
  induction ks with
  | nil => rfl
  | cons k ks ih => simp only [firstError, Kind.loaded, h, ih]

theorem loadUserByID_congr (user : User) (w₀ w₁ : World) (hu : UID ≠ 0) (hf₀ : w₀.faults = [])
    (hf₁ : w₁.faults = []) (ht : w₁.tables = w₀.tables)
    (hrow : w₀.tables.users.rows.find? (·.2.id = UID) = some (localID, row))
    (h₀ : (loadUserByID UID user true).run w₀ = .ok r₀ w₀') :
    ∃ r₁ w₁', (loadUserByID UID user true).run w₁ = .ok r₁ w₁' ∧ r₁.1 = r₀.1 ∧
      userRow r₁.2 = userRow r₀.2 ∧ r₁.2.base.localID = r₀.2.base.localID ∧
      (r₀.1 = noError → ∀ k : Kind, r₁.2.data.related.get k = r₀.2.data.related.get k) := by
  obtain ⟨he₀, hu₀, hl₀, hk₀⟩ := wp_ok (loadUserByID_spec user hu hf₀ hrow) h₀
  obtain ⟨r₁, w₁', h₁, he₁, hu₁, hl₁, hk₁⟩ :=
    exists_ok_of_wp (loadUserByID_spec user hu hf₁ (ht ▸ hrow))
  rw [firstError_congr ht] at he₁
  refine ⟨r₁, w₁', h₁, he₁.trans he₀.symm, hu₁.trans hu₀.symm, hl₁.trans hl₀.symm, fun h k => ?_⟩
  rw [hk₁ (he₁.trans (he₀.symm.trans h)) k, hk₀ h k, Kind.loaded, Kind.loaded, ht]

/-! ### Logging in and out -/

/-- A `SetCurrentAPIToken` whose delete passes and whose insert fails returns the error and
leaves no session, whichever session there was: `LoadCurrentUser` then finds no one logged in,
and returns `noError` with the user as it was. -/
theorem setCurrentAPIToken_logs_out (token : String) (sessions : Table SessionRow) (w : World)
    (h₁ : w.faults.head? ≠ some true) (h₂ : w.faults[1]? = some true) :
    ∃ s w', (setCurrentAPIToken token sessions).run w =
        .ok ((Exception.sql "disk I/O error").displayText, s) w' ∧
      ∀ (user : User) (b : Bool) (w'' : World), w''.faults = [] →
        (loadCurrentUser s user b).run w'' = .ok (noError, user) w''.pass := by
  have h₂' : w.pass.faults.head? = some true := by simpa [World.pass, List.head?_eq_getElem?] using h₂
  obtain ⟨⟨err, s⟩, w', hrun, rfl, rfl⟩ : ∃ r w', (setCurrentAPIToken token sessions).run w =
      .ok r w' ∧ r.1 = (Exception.sql "disk I/O error").displayText ∧ r.2 = .empty :=
    exists_ok_of_wp (by rw [setCurrentAPIToken_eq, if_neg h₁, if_pos h₂']; exact ⟨rfl, rfl⟩)
  refine ⟨.empty, w', hrun, fun user b w'' hf => ?_⟩
  obtain ⟨r, w₁, hload, rfl, rfl⟩ : ∃ r w₁, (loadCurrentUser .empty user b).run w'' = .ok r w₁ ∧
      r = (noError, user) ∧ w₁ = w''.pass :=
    exists_ok_of_wp (by rw [loadCurrentUser_eq, hf]; exact ⟨rfl, rfl⟩)
  exact hload

/-- Log in, then load at the next start. `SaveUser` with related data of a new user whose
collections hold only new models, none marked as deleted, none written with a NULL column and
all with their unsigned columns below 2^63, under a user ID below 2^63, returns `noError` on a
store with no row of the user's ID or API token; `SetCurrentAPIToken` of
the user's token, over any session, and then `LoadCurrentUser`, with no SQLite call failing,
return `noError`, and the user loaded is the one saved: its columns, the `local_id` the save gave
it, and each collection as a permutation of the one the save left, model by model as saved. -/
theorem saveUser_then_loadCurrentUser (G : User) (w : World) (G' : User) (w' : World)
    (sessions : Table SessionRow) (U₀ : User)
    (hnew : G.base.localID = 0)
    (hrel : ∀ k : Kind, ∀ e ∈ G.data.related.get k, e.base.localID = 0 ∧
      e.base.isMarkedAsDeletedOnServer = false ∧ k.writesNoNull e ∧ k.writesInRange e)
    (hfits : fitsInt64 G.base.id = true)
    (hstore : (∀ p ∈ w.tables.users.rows, p.2.id ≠ G.base.id ∧ p.2.apiToken ≠ G.data.apiToken) ∧
      ∀ k : Kind, ∀ p ∈ (w.tables.get (.of k)).rows, k.rowUID p.2 ≠ G.base.id)
    (h : (saveUser G true).run w = .ok (noError, G') w') :
    ∃ s w₁, (setCurrentAPIToken G.data.apiToken sessions).run { w' with faults := [] } =
        .ok (noError, s) w₁ ∧
      ∃ U w₂, (loadCurrentUser s U₀ true).run w₁ = .ok (noError, U) w₂ ∧
        userRow U = userRow G ∧ U.base.localID = G'.base.localID ∧
        ∀ k : Kind, ∃ l, l.Perm (U.data.related.get k) ∧
          List.Forall₂ k.LoadedAs (G'.data.related.get k) l := by
  obtain ⟨⟨-, htok, hid⟩, -⟩ := (wp_ok (saveUser_spec G true w) h).1 rfl
  have hrel' : ∀ k : Kind, ∀ e ∈ G.data.related.get k,
      e.base.localID = 0 ∧ e.base.isMarkedAsDeletedOnServer = false :=
    fun k e he => ⟨(hrel k e he).1, (hrel k e he).2.1⟩
  obtain ⟨-, -, -, husers⟩ := saveUser_appends_user G w G' w' hnew hrel' h
  have hfind : w'.tables.users.rows.find? (·.2.apiToken = G.data.apiToken) =
      some (G'.base.localID, userRow G) := by
    rw [husers, List.find?_append, List.find?_eq_none.2 (by simpa using fun p hp => (hstore.1 p hp).2)]
    simp [userRow]
  obtain ⟨U, w'', hU₀, hrow, hlocal, hk⟩ := saveUser_loadUserByID_rows G w G' w'
    (U₀.setAPIToken G.data.apiToken) hnew hrel hfits ⟨fun p hp => (hstore.1 p hp).1, hstore.2⟩ h
  obtain ⟨-, hfind', -⟩ := saveUser_inserts G w G' w' hnew hrel' (fun p hp => (hstore.1 p hp).1) h
  let w₀ : World := { w' with faults := [] }
  let w₁ : World := { w₀.pass.pass with lastRowid := 1 }
  obtain ⟨r₁, w₂, hrun, he, hu, hl, hk'⟩ :=
    loadUserByID_congr _ w₀ w₁.pass.pass hid rfl rfl rfl hfind' hU₀
  refine ⟨.single 1 ⟨G.data.apiToken, 1⟩, w₁, ?_, r₁.2, w₂, ?_, hu.trans hrow, hl.trans hlocal,
    fun k => ⟨(G'.data.related.get k).map fun e => k.fromRow e.base.localID (k.spec.insertRow e),
      by rw [hk' rfl k]; exact (hk k).2.symm, ?_⟩⟩
  · obtain ⟨r, w₁', hset, rfl, rfl⟩ : ∃ r w₁', (setCurrentAPIToken G.data.apiToken sessions).run w₀ =
        .ok r w₁' ∧ r = (noError, .single 1 ⟨G.data.apiToken, 1⟩) ∧ w₁' = w₁ :=
      exists_ok_of_wp (by rw [setCurrentAPIToken_eq]; exact ⟨rfl, rfl⟩)
    exact hset
  · have htok' : sessionToken (.single 1 ⟨G.data.apiToken, 1⟩) = G.data.apiToken := rfl
    obtain ⟨r, w₂', hload, hr, rfl⟩ : ∃ r w₂', (loadCurrentUser (.single 1 ⟨G.data.apiToken, 1⟩) U₀
        true).run w₁ = .ok r w₂' ∧ r = r₁ ∧ w₂' = w₂ := by
      refine exists_ok_of_wp ?_
      rw [loadCurrentUser_eq, if_neg (by simp [w₁, w₀, World.pass]), htok', if_neg htok,
        loadUserByAPIToken_eq _ _ _ htok, if_neg (by simp [w₁, w₀, World.pass])]
      simp only [show w₁.pass.tables = w'.tables from rfl, hfind, Option.map_some', Option.getD_some,
        userRow, hid, ↓reduceIte]
      unfold wp
      rw [hrun]
      exact ⟨rfl, rfl⟩
    rw [hload, hr, show r₁ = (noError, r₁.2) from Prod.ext he rfl]
  · rw [List.forall₂_map_right_iff]
    exact List.forall₂_same.2 fun e _ =>
      ⟨k.fromRow_localID _ _, k.fromRow_dirty _ _, k.insertRow_fromRow _ e⟩

/-- A new user with a new workspace, saved on an empty store, logged in and loaded. -/
theorem saveUser_then_loadCurrentUser_workspace :
    ∃ G' w', (saveUser { base := { id := 1 }, data := {
        email := "a", apiToken := "t", related := { workspaces := [{ base := { id := 3 }, data := {} }] } } }
        true).run {} = .ok (noError, G') w' ∧
      ∃ s w₁, (setCurrentAPIToken "t" .empty).run { w' with faults := [] } = .ok (noError, s) w₁ ∧
        ∃ U w₂, (loadCurrentUser s { data := {} } true).run w₁ = .ok (noError, U) w₂ ∧
          userRow U = ⟨1, "t", 0, 0, "", "a", false, false⟩ ∧ U.base.localID = G'.base.localID ∧
          ∀ k : Kind, ∃ l, l.Perm (U.data.related.get k) ∧
            List.Forall₂ k.LoadedAs (G'.data.related.get k) l := by
  obtain ⟨G', w', h, -⟩ := saveUser_new_ok_empty { base := { id := 1 }, data := {
    email := "a", apiToken := "t", related := { workspaces := [{ base := { id := 3 }, data := {} }] } } }
    (by decide) rfl fun k => by cases k <;> decide
  have hrel : ∀ k : Kind, ∀ e ∈ RelatedData.get { workspaces := [{ base := { id := 3 }, data := {} }] } k,
      e.base.localID = 0 ∧ e.base.isMarkedAsDeletedOnServer = false ∧ k.writesNoNull e ∧
        k.writesInRange e := by
    intro k e he
    cases k <;> simp only [RelatedData.get, List.mem_singleton, List.not_mem_nil] at he
    subst he
    exact ⟨rfl, rfl, by decide, by decide⟩
  have := saveUser_then_loadCurrentUser _ {} G' w' .empty { data := {} } rfl hrel (by decide)
    ⟨fun _ hp => absurd hp (List.not_mem_nil _), (noRowsOf_empty 1).2⟩ h
  exact ⟨G', w', h, this⟩

end Kopsik
