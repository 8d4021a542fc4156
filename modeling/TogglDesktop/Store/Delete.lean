import TogglDesktop.Store.RoundTrip

namespace Kopsik
set_option autoImplicit true

/-! `Database::DeleteUser`: the user's row, then, with related data, every row of each
collection's table that carries the user's ID. The statements run one after another with no
transaction around them, so a failing statement leaves the ones before it in effect. -/

namespace Table

/-- The rows a `delete .. where` statement on a row's columns leaves: those `p` holds for. -/
def keep (t : Table R) (p : R → Bool) : Table R :=
  ⟨t.rows.filter (p ·.2), ((List.filter_sublist _).map Prod.fst).nodup t.nodup⟩

theorem ext_rows {t₁ t₂ : Table R} (h : t₁.rows = t₂.rows) : t₁ = t₂ := by
  cases t₁; cases t₂; cases h; rfl

end Table

theorem Tables.ext_get {db₁ db₂ : Tables} (h : ∀ t, db₁.get t = db₂.get t) : db₁ = db₂ := by
  cases db₁; cases db₂
  simp only [Tables.mk.injEq]
  exact ⟨h .users, h (.of .workspace), h (.of .client), h (.of .project), h (.of .task),
    h (.of .tag), h (.of .timeEntry)⟩

/-- What `delete from <table> where uid = :uid` does to the tables. -/
def Tables.deleteUID (db : Tables) (k : Kind) (UID : Poco.Int64) : Tables :=
  db.set (.of k) ((db.get (.of k)).keep (k.rowUID · != UID))

/-- `delete from <table> where uid = :uid`. -/
def deleteWhereUID (k : Kind) (UID : Poco.Int64) : DB Unit := do
  sqlCall
  modify fun w => { w with tables := w.tables.deleteUID k UID }

/-- `Database::deleteAllFromTableByUID`; its assertions stand outside the `try`. -/
def deleteAllFromTableByUID (k : Kind) (UID : Poco.Int64) : DB error := do
  pocoAssert (0 < UID.toInt) "UID > 0"
  tryCatch (do deleteWhereUID k UID; lastError "deleteAllFromTableByUID")
    fun exc => pure exc.displayText

/-- The `deleteAllFromTableByUID` calls of `DeleteUser` over the tables `ks`; the first error
ends them. -/
def deleteRelated (UID : Poco.Int64) : List Kind → DB error
  | [] => pure noError
  | k :: ks => do
    let err ← deleteAllFromTableByUID k UID
    if err ≠ noError then return err else deleteRelated UID ks

/-- `Database::DeleteUser`. `relatedKinds` lists the tables in the order it deletes from them,
and the user's `UInt64` ID goes to `deleteAllFromTableByUID` as the same 64 bits. -/
def deleteUser (model : User) (withRelatedData : Bool) : DB error := do
  let err ← deleteFromTable .users model.base.localID
  if err ≠ noError then return err
  else if withRelatedData then deleteRelated model.base.id relatedKinds else return noError

/-- The statements of `DeleteUser`, as what each does to the tables, in the order it runs
them. -/
def deleteUserStatements (model : User) (withRelatedData : Bool) : List (Tables → Tables) :=
  (fun db => db.set .users ((db.get .users).delete model.base.localID)) ::
    if withRelatedData then relatedKinds.map fun k db => db.deleteUID k model.base.id else []

/-- The tables that a list of statements leaves, run in order. -/
def runStatements (fs : List (Tables → Tables)) (db : Tables) : Tables :=
  fs.foldl (fun db f => f db) db

/-- `j` is the position of the first call among `n` that the fault schedule fails, or `n` when
it fails none of them. -/
structure FirstFault (faults : List Bool) (n j : Nat) : Prop where
  le : j ≤ n
  before : ∀ i < j, faults[i]? ≠ some true
  hit : j < n → faults[j]? = some true

theorem FirstFault.zero (h : faults.head? = some true) (n : Nat) : FirstFault faults n 0 :=
  ⟨Nat.zero_le n, fun _ hi => absurd hi (Nat.not_lt_zero _), fun _ => by
    rwa [← List.head?_eq_getElem?]⟩

theorem FirstFault.none : FirstFault faults 0 0 :=
  ⟨le_rfl, fun _ hi => absurd hi (Nat.not_lt_zero _), fun h => absurd h (Nat.lt_irrefl 0)⟩

theorem FirstFault.succ (hf : faults.head? ≠ some true) (h : FirstFault faults.tail n j) :
    FirstFault faults (n + 1) (j + 1) := by
  refine ⟨Nat.succ_le_succ h.le, fun i hi => ?_, fun hj => ?_⟩
  · cases i with
    | zero => rwa [← List.head?_eq_getElem?]
    | succ i => simpa using h.before i (Nat.lt_of_succ_lt_succ hi)
  · simpa using h.hit (Nat.lt_of_succ_lt_succ hj)

theorem FirstFault.eq_of_nil (h : FirstFault [] n j) : j = n :=
  Nat.le_antisymm h.le (Nat.not_lt.1 fun hj => by simpa using h.hit hj)

section Spec

variable {Q : error → World → Prop} {E : Exception → World → Prop} {w : World}

theorem wp_deleteWhereUID {Q : PUnit → World → Prop} (k : Kind) (UID : Poco.Int64) :
    wp (deleteWhereUID k UID) Q E w ↔
      if w.faults.head? = some true then E (.sql "disk I/O error") w.fault
      else Q () { w.pass with tables := w.tables.deleteUID k UID } := by
  simp only [deleteWhereUID, wp_bind, wp_sqlCall]
  split_ifs <;> rfl

theorem deleteFromTable_eq (t : TableName) (localID : Poco.Int64) :
    wp (deleteFromTable t localID) Q E w ↔
      if localID = 0 then E (.assertion "local_id") w
      else if w.faults.head? = some true then Q (Exception.sql "disk I/O error").displayText w.fault
      else Q noError { w.pass with tables := w.tables.set t ((w.tables.get t).delete localID) } := by
  unfold deleteFromTable pocoAssert
  by_cases hl : localID = 0
  · simp [hl]
  · simp only [hl, ne_eq, not_false_eq_true, decide_True, ↓reduceIte, wp_bind, wp_pure,
      wp_tryCatch, wp_deleteWhere]
    split_ifs <;> simp [noError]

theorem deleteAllFromTableByUID_eq (k : Kind) (UID : Poco.Int64) :
    wp (deleteAllFromTableByUID k UID) Q E w ↔
      if ¬ 0 < UID.toInt then E (.assertion "UID > 0") w
      else if w.faults.head? = some true then Q (Exception.sql "disk I/O error").displayText w.fault
      else Q noError { w.pass with tables := w.tables.deleteUID k UID } := by
  unfold deleteAllFromTableByUID pocoAssert
  by_cases hU : 0 < UID.toInt
  · simp only [hU, decide_True, ↓reduceIte, not_true_eq_false, wp_bind, wp_pure, wp_tryCatch,
      wp_deleteWhereUID]
    split_ifs <;> simp [noError]
  · simp [hU]

theorem deleteRelated_of_not_pos (hU : ¬ 0 < UID.toInt) (k : Kind) (ks : List Kind) :
    wp (deleteRelated UID (k :: ks)) Q E w ↔ E (.assertion "UID > 0") w := by
  rw [deleteRelated, wp_bind, deleteAllFromTableByUID_eq, if_pos hU]

/-- The calls over `ks` with a positive ID run the first `j` deletions, where `j` is the
position of the first failing call, and return `noError` exactly when all of them ran. -/
theorem deleteRelated_spec (hU : 0 < UID.toInt) (ks : List Kind) (w : World) :
    wp (deleteRelated UID ks)
      (fun err w' => ∃ j, FirstFault w.faults ks.length j ∧
        w'.tables = (ks.take j).foldl (fun db k => db.deleteUID k UID) w.tables ∧
        (err = noError ↔ j = ks.length))
      (fun _ _ => False) w := by
  induction ks generalizing w with
  | nil => exact ⟨0, ⟨le_rfl, by simp, by simp⟩, rfl, by simp⟩
  | cons k ks ih =>
    rw [deleteRelated, wp_bind, deleteAllFromTableByUID_eq, if_neg (not_not.2 hU)]
    by_cases hf : w.faults.head? = some true
    · rw [if_pos hf, if_pos (Exception.displayText_ne_noError _), wp_pure]
      exact ⟨0, .zero hf _, rfl, by simp [Exception.displayText_ne_noError]⟩
    · rw [if_neg hf, if_neg (not_not.2 rfl)]
      refine wp_mono (fun err w' ⟨j, hj, htab, herr⟩ => ?_) (fun _ _ h => h) (ih _)
      exact ⟨j + 1, .succ hf hj, by simpa [List.take_succ_cons] using htab, by simpa using herr⟩

theorem runStatements_deleteUser_succ (G : User) (j : Nat) (db : Tables) :
    runStatements ((deleteUserStatements G true).take (j + 1)) db =
      (relatedKinds.take j).foldl (fun db k => db.deleteUID k G.base.id)
        (db.set .users ((db.get .users).delete G.base.localID)) := by
  simp [runStatements, deleteUserStatements, List.take_succ_cons, ← List.map_take, List.foldl_map]

/-- Every run of `DeleteUser`, whatever SQLite call fails, leaves the tables as the first `j`
of its statements leave them, `j` the position of the first failing call; it returns
`noError` exactly when all of them ran, and raises only from the assertions on the user's
`local_id` and, with related data, on the user's ID read as an `Int64`: the second after the
user's row is gone. -/
theorem deleteUser_spec (G : User) (withRelatedData : Bool) (w : World) :
    wp (deleteUser G withRelatedData)
      (fun err w' => ∃ j, FirstFault w.faults (deleteUserStatements G withRelatedData).length j ∧
        w'.tables = runStatements ((deleteUserStatements G withRelatedData).take j) w.tables ∧
        (err = noError ↔ j = (deleteUserStatements G withRelatedData).length))
      (fun e w' => e = .assertion "local_id" ∧ G.base.localID = 0 ∧ w'.tables = w.tables ∨
        e = .assertion "UID > 0" ∧ withRelatedData = true ∧ ¬ 0 < G.base.id.toInt ∧
          w'.tables = runStatements ((deleteUserStatements G withRelatedData).take 1) w.tables)
      w := by
  rw [deleteUser, wp_bind, deleteFromTable_eq]
  by_cases hl : G.base.localID = 0
  · rw [if_pos hl]
    exact .inl ⟨rfl, hl, rfl⟩
  rw [if_neg hl]
  by_cases hf : w.faults.head? = some true
  · rw [if_pos hf, if_pos (Exception.displayText_ne_noError _), wp_pure]
    exact ⟨0, .zero hf _, rfl, by simp [Exception.displayText_ne_noError, deleteUserStatements]⟩
  · rw [if_neg hf, if_neg (not_not.2 rfl)]
    cases withRelatedData with
    | false => exact ⟨1, .succ hf .none, rfl, by simp [deleteUserStatements]⟩
    | true =>
      rw [if_pos rfl]
      by_cases hU : 0 < G.base.id.toInt
      · refine wp_mono ?_ (fun _ _ => False.elim) (deleteRelated_spec hU relatedKinds _)
        rintro err w' ⟨j, hj, htab, herr⟩
        exact ⟨j + 1, .succ hf hj, by rw [htab, runStatements_deleteUser_succ],
          by simpa [deleteUserStatements] using herr⟩
      · rw [relatedKinds, deleteRelated_of_not_pos hU]
        exact .inr ⟨rfl, rfl, hU, by simp [runStatements, deleteUserStatements]⟩

/-- A store with a user's row and a workspace row of the user's ID, and a schedule that fails
the second call: `DeleteUser` returns the error with the user's row gone and the workspace row
still there. -/
theorem deleteUser_spec_secondCallFails :
    ∃ err w', (deleteUser { base := { localID := 1, id := 1 }, data := {} } true).run
        { tables := {
            users := ⟨[(1, ⟨1, "t", 0, 0, "", "a", false, false⟩)], by decide⟩
            workspaces := ⟨[(1, ⟨2, 1, "w", false⟩)], by decide⟩ }
          faults := [false, true] } = .ok err w' ∧
      err ≠ noError ∧ w'.tables.users.rows = [] ∧
      w'.tables.workspaces.rows = [(1, ⟨2, 1, "w", false⟩)] := by
  obtain ⟨err, w', hrun, j, hj, htab, herr⟩ := exists_ok_of_wp (wp_mono
    (fun _ _ h => h) (fun _ _ h => by
      rcases h with ⟨-, h, -⟩ | ⟨-, -, h, -⟩ <;> exact absurd h (by decide))
    (deleteUser_spec { base := { localID := 1, id := 1 }, data := {} } true
      { tables := {
          users := ⟨[(1, ⟨1, "t", 0, 0, "", "a", false, false⟩)], by decide⟩
          workspaces := ⟨[(1, ⟨2, 1, "w", false⟩)], by decide⟩ }
        faults := [false, true] }))
  obtain rfl : j = 1 := by
    rcases j with _ | _ | j
    · exact absurd (hj.hit (by decide)) (by decide)
    · rfl
    · exact absurd rfl (hj.before 1 (by omega))
  exact ⟨err, w', hrun, fun h => absurd (herr.1 h) (by decide), by rw [htab]; rfl, by rw [htab]; rfl⟩

theorem runStatements_deleteUser (G : User) (db : Tables) :
    runStatements (deleteUserStatements G true) db =
      relatedKinds.foldl (fun db k => db.deleteUID k G.base.id)
        (db.set .users ((db.get .users).delete G.base.localID)) := by
  simp [runStatements, deleteUserStatements, List.foldl_map]

theorem runStatements_deleteUser_get (G : User) (db : Tables) (t : TableName) :
    (runStatements (deleteUserStatements G true) db).get t = match t with
      | .users => (db.get .users).delete G.base.localID
      | .of k => (db.get (.of k)).keep (k.rowUID · != G.base.id) := by
  rw [runStatements_deleteUser]
  rcases t with _ | k
  · simp [relatedKinds, Tables.deleteUID]
  · cases k <;> simp [relatedKinds, Tables.deleteUID]

theorem deleteUser_of_faults_nil (hl : G.base.localID ≠ 0) (hU : 0 < G.base.id.toInt)
    (hf : w.faults = []) :
    wp (deleteUser G true)
      (fun err w' => err = noError ∧
        w'.tables = runStatements (deleteUserStatements G true) w.tables)
      (fun _ _ => False) w := by
  rw [deleteUser, wp_bind, deleteFromTable_eq, if_neg hl, if_neg (by simp [hf]),
    if_neg (not_not.2 rfl), if_pos rfl]
  refine wp_mono ?_ (fun _ _ => False.elim) (deleteRelated_spec hU relatedKinds _)
  rintro err w' ⟨j, hj, htab, herr⟩
  obtain rfl : j = relatedKinds.length :=
    (show FirstFault [] _ j by simpa only [World.pass, hf, List.tail_nil] using hj).eq_of_nil
  rw [List.take_length] at htab
  exact ⟨herr.2 rfl, by rw [htab, runStatements_deleteUser]⟩

theorem exists_error_of_wp {x : DB α} {E : Exception → World → Prop}
    (h : wp x (fun _ _ => False) E w) : ∃ e w', x.run w = .error e w' ∧ E e w' := by
  unfold wp at h
  cases hr : x.run w with
  | ok a w' => rw [hr] at h; exact h.elim
  | error e w' => exact ⟨e, w', rfl, by rwa [hr] at h⟩

/-- With related data, `DeleteUser` of a stored user whose ID read as an `Int64` is not
positive (an ID of 0, or of 2^63 or more) deletes the user's row and then raises the `UID > 0`
assertion, leaving every row of the collections. -/
theorem deleteUser_raises_assertion (G : User) (w : World) (hl : G.base.localID ≠ 0)
    (hid : ¬ 0 < G.base.id.toInt) (hf : w.faults.head? ≠ some true) :
    ∃ w', (deleteUser G true).run w = .error (.assertion "UID > 0") w' ∧
      w'.tables = w.tables.set .users ((w.tables.get .users).delete G.base.localID) := by
  obtain ⟨e, w', hrun, rfl, htab⟩ := exists_error_of_wp (x := deleteUser G true) (w := w)
    (E := fun e w' => e = .assertion "UID > 0" ∧
      w'.tables = w.tables.set .users ((w.tables.get .users).delete G.base.localID)) (by
    rw [deleteUser, wp_bind, deleteFromTable_eq, if_neg hl, if_neg hf, if_neg (not_not.2 rfl),
      if_pos rfl, relatedKinds, deleteRelated_of_not_pos hid]
    exact ⟨rfl, rfl⟩)
  exact ⟨w', hrun, htab⟩

end Spec

/-! ### Save, then delete -/

theorem saveUser_appends_user (G : User) (w : World) (G' : User) (w' : World)
    (hnew : G.base.localID = 0)
    (hrel : ∀ k : Kind, ∀ e ∈ G.data.related.get k,
      e.base.localID = 0 ∧ e.base.isMarkedAsDeletedOnServer = false)
    (h : (saveUser G true).run w = .ok (noError, G') w') :
    G'.base.id = G.base.id ∧ G'.base.localID ≠ 0 ∧
      G'.base.localID ∉ w.tables.users.rows.map Prod.fst ∧
      w'.tables.users.rows = w.tables.users.rows ++ [(G'.base.localID, userRow G)] := by
  obtain ⟨-, -, hrow, hrel', hend⟩ := (wp_ok (saveUser_spec G true w) h).1 rfl
  rw [if_pos (by simp [hnew])] at hrow
  obtain ⟨r', hsr, rfl⟩ := hrel'
  obtain ⟨husers, -, -⟩ := hsr.inserted (by decide) fun k _ => hrel k
  cases hrow with
  | update hl => exact absurd hnew hl
  | @insert r tab' _ _ happ htab _ =>
    obtain ⟨hfresh, hpos, hrows⟩ := Table.append_some happ
    refine ⟨rfl, fun h0 => by simp [show r = 0 from h0] at hpos, hfresh, ?_⟩
    show (w'.tables.get .users).rows = (w.tables.get .users).rows ++ _
    rw [hend.1, husers, htab, Tables.get_set, hrows]
    rfl

/-- Save, then delete. `SaveUser` with related data of a new user whose collections hold only
new models, none marked as deleted, returns `noError` on a store with no row of the user's ID,
an ID positive as an `Int64`; `DeleteUser` with related data of the user it returns, with no
SQLite call failing, then returns `noError` and leaves the tables as they were before the
save. -/
theorem saveUser_then_deleteUser (G : User) (w : World) (G' : User) (w' : World)
    (hnew : G.base.localID = 0)
    (hrel : ∀ k : Kind, ∀ e ∈ G.data.related.get k,
      e.base.localID = 0 ∧ e.base.isMarkedAsDeletedOnServer = false)
    (hstore : (∀ p ∈ w.tables.users.rows, p.2.id ≠ G.base.id) ∧
      ∀ k : Kind, ∀ p ∈ (w.tables.get (.of k)).rows, k.rowUID p.2 ≠ G.base.id)
    (hid : 0 < G.base.id.toInt)
    (h : (saveUser G true).run w = .ok (noError, G') w') :
    ∃ w'', (deleteUser G' true).run { w' with faults := [] } = .ok noError w'' ∧
      w''.tables = w.tables := by
  obtain ⟨hid', hl, hfresh, husers⟩ := saveUser_appends_user G w G' w' hnew hrel h
  obtain ⟨-, -, hin⟩ := saveUser_inserts G w G' w' hnew hrel hstore.1 h
  obtain ⟨_, w'', hrun, rfl, htab⟩ :=
    exists_ok_of_wp (deleteUser_of_faults_nil (w := { w' with faults := [] }) hl (hid' ▸ hid) rfl)
  refine ⟨w'', hrun, Tables.ext_get fun t => Table.ext_rows ?_⟩
  rw [htab, runStatements_deleteUser_get]
  rcases t with _ | k
  · show (w'.tables.users.rows).filter _ = w.tables.users.rows
    rw [husers, List.filter_append, List.filter_eq_self.2, List.filter_singleton]
    · simp
    · intro p hp
      simpa using fun h : p.1 = G'.base.localID => hfresh (h ▸ List.mem_map_of_mem Prod.fst hp)
  · show ((w'.tables.get (.of k)).rows).filter _ = (w.tables.get (.of k)).rows
    rw [(hin k).2, List.filter_append, List.filter_eq_self.2, List.filter_eq_nil_iff.2,
      List.append_nil]
    · intro p hp
      obtain ⟨e', he', rfl⟩ := List.mem_map.1 hp
      obtain ⟨e, -, hi⟩ := forall₂_mem_right (hin k).1 he'
      simp [Kind.rowOf, Kind.rowUID_insertRow, hi.uid_eq, hid']
    · intro p hp
      simpa [hid'] using hstore.2 k p hp

/-- A new user with a new workspace, saved on an empty store and deleted again. -/
theorem saveUser_then_deleteUser_workspace :
    ∃ G' w', (saveUser { base := { id := 1 }, data := {
        email := "a", apiToken := "t", related := { workspaces := [{ base := { id := 3 }, data := {} }] } } }
        true).run {} = .ok (noError, G') w' ∧
      ∃ w'', (deleteUser G' true).run { w' with faults := [] } = .ok noError w'' ∧
        w''.tables = ({} : World).tables := by
  obtain ⟨G', w', h, -⟩ := saveUser_new_ok_empty { base := { id := 1 }, data := {
    email := "a", apiToken := "t", related := { workspaces := [{ base := { id := 3 }, data := {} }] } } }
    (by decide) rfl fun k => by cases k <;> decide
  refine ⟨G', w', h, saveUser_then_deleteUser _ {} G' w' rfl (fun k e he => ?_) (noRowsOf_empty 1)
    (by decide) h⟩
  cases k <;> simp only [RelatedData.get, List.mem_singleton, List.not_mem_nil] at he
  subst he
  exact ⟨rfl, rfl⟩

end Kopsik
