import TogglDesktop.Store.Save

namespace Kopsik
set_option autoImplicit true

/-! `Database::initialize_tables` and `Database::migrate`. A migration is a statement that
SQLite refuses once it has taken effect (`CREATE TABLE`, `CREATE UNIQUE INDEX` and
`ALTER TABLE .. ADD COLUMN` have no `IF NOT EXISTS`), but for the `INSERT .. WHERE NOT EXISTS`
of `settings.default`, which a second run leaves as it was. `migrate` runs the statement and
then records the migration's name in `kopsik_migrations`: two statements, in no transaction. -/

/-- `select name from sqlite_master where type='table' and name='kopsik_migrations'`, into
`table_name` with `limit(1)`: the name, or "" when there is no such table. -/
def selectMigrationsTable : DB String := do
  sqlCall
  return if (← get).catalog.migrationsTable then "kopsik_migrations" else ""

/-- `create table kopsik_migrations(id integer primary key, name varchar not null)`. -/
def createMigrationsTable : DB Unit := do
  sqlCall
  let w ← get
  if w.catalog.migrationsTable then fail "table kopsik_migrations already exists" else
  set { w with catalog := { w.catalog with migrationsTable := true } }

/-- `CREATE UNIQUE INDEX id_kopsik_migrations_name ON kopsik_migrations (name);`. -/
def createMigrationsIndex : DB Unit := do
  sqlCall
  let w ← get
  if w.catalog.migrationsIndex then fail "index id_kopsik_migrations_name already exists" else
  set { w with catalog := { w.catalog with migrationsIndex := true } }

/-- `select count(*) from kopsik_migrations where name=:name`. -/
def countMigrations (name : String) : DB Nat := do
  sqlCall
  let w ← get
  if !w.catalog.migrationsTable then fail "no such table: kopsik_migrations" else
  return w.catalog.ledger.count name

/-- The migration statements SQLite refuses once they have taken effect: the schema statements.
The one `INSERT` adds its row only when `settings` has none, so a second run changes nothing. -/
def refusedOnRerun (sql : String) : Bool := !"INSERT".data.isPrefixOf sql.data

/-- `*session << sql`: a migration statement; a schema statement that has taken effect is
refused. -/
def executeMigration (sql : String) : DB Unit := do
  sqlCall
  let w ← get
  if sql ∈ w.catalog.applied then
    if refusedOnRerun sql then fail "already exists" else pure ()
  else set { w with catalog := { w.catalog with applied := w.catalog.applied ++ [sql] } }

/-- `insert into kopsik_migrations(name) values(:name)`, which the unique index on `name`
refuses for a name it holds. -/
def insertMigration (name : String) : DB Unit := do
  sqlCall
  let w ← get
  if w.catalog.migrationsIndex ∧ name ∈ w.catalog.ledger then fail "constraint failed" else
  set { w with catalog := { w.catalog with ledger := w.catalog.ledger ++ [name] } }

/-- `Database::migrate`: the statement runs when the ledger does not hold the name, and the name
is recorded after it; exceptions come back as their `displayText`. -/
def migrate (name sql : String) : DB error := do
  pocoAssert (name ≠ "") "!name.empty()"
  pocoAssert (sql ≠ "") "!sql.empty()"
  tryCatch
    (do
      let count ← countMigrations name
      let err ← lastError "migrate"
      if err ≠ noError then return err
      if count < 1 then
        executeMigration sql
        let err ← lastError "migrate"
        if err ≠ noError then return err
        insertMigration name
        let err ← lastError "migrate"
        if err ≠ noError then return err
      return noError)
    fun exc => pure exc.displayText

/-- The migrations `initialize_tables` runs, in order: each name with its statement. -/
def migrations : List (String × String) := [
  ("users",
    "create table users(local_id integer primary key, id integer not null, " ++
    "api_token varchar not null, default_wid integer, since integer, fullname varchar, " ++
    "email varchar not null, record_timeline integer not null default 0); "),
  ("users.store_start_and_stop_time",
    "ALTER TABLE users ADD COLUMN store_start_and_stop_time INT NOT NULL DEFAULT 0;"),
  ("users.id",
    "CREATE UNIQUE INDEX id_users_id ON users (id);"),
  ("users.email",
    "CREATE UNIQUE INDEX id_users_email ON users (email);"),
  ("users.api_token",
    "CREATE UNIQUE INDEX id_users_api_token ON users (api_token);"),
  ("workspaces",
    "create table workspaces(local_id integer primary key,id integer not null, " ++
    "uid integer not null, name varchar not null," ++
    "constraint fk_workspaces_uid foreign key (uid) " ++
    "   references users(id) on delete no action on update no action); "),
  ("workspaces.id",
    "CREATE UNIQUE INDEX id_workspaces_id ON workspaces (uid, id);"),
  ("workspaces.premium",
    "alter table workspaces add column premium int default 0"),
  ("clients",
    "create table clients(local_id integer primary key,id integer, uid integer not null, " ++
    "name varchar not null, guid varchar, wid integer not null, " ++
    "constraint fk_clients_wid foreign key (wid) " ++
    "   references workpaces(id) on delete no action on update no action," ++
    "constraint fk_clients_uid foreign key (uid) " ++
    "   references users(id) on delete no action on update no action); "),
  ("clients.id",
    "CREATE UNIQUE INDEX id_clients_id ON clients (uid, id); "),
  ("clients.guid",
    "CREATE UNIQUE INDEX id_clients_guid ON clients (uid, guid);"),
  ("projects",
    "create table projects(local_id integer primary key, id integer, " ++
    "uid integer not null, name varchar not null, guid varchar, color varchar, " ++
    "wid integer not null, cid integer, active integer not null default 1," ++
    "constraint fk_projects_wid foreign key (wid) " ++
    "   references workpaces(id) on delete no action on update no action," ++
    "constraint fk_projects_cid foreign key (cid) " ++
    "   references clients(id) on delete no action on update no action," ++
    "constraint fk_projects_uid foreign key (uid) " ++
    "   references users(id) ON DELETE NO ACTION ON UPDATE NO ACTION); "),
  ("projects.billable",
    "ALTER TABLE projects ADD billable INT NOT NULL DEFAULT 0"),
  ("projects.id",
    "CREATE UNIQUE INDEX id_projects_id ON projects (uid, id);"),
  ("projects.guid",
    "CREATE UNIQUE INDEX id_projects_guid ON projects (uid, guid);"),
  ("tasks",
    "create table tasks(local_id integer primary key, id integer not null, " ++
    "uid integer not null, name varchar not null, wid integer not null, pid integer, " ++
    "constraint fk_tasks_wid foreign key (wid) " ++
    "   references workpaces(id) on delete no action on update no action, " ++
    "constraint fk_tasks_pid foreign key (pid) " ++
    "   references projects(id) on delete no action on update no action, " ++
    "constraint fk_tasks_uid foreign key (uid) " ++
    "   references users(id) on delete no action on update no action ); "),
  ("tasks.id",
    "CREATE UNIQUE INDEX id_tasks_id ON tasks (uid, id);"),
  ("tags",
    "create table tags(local_id integer primary key, id integer not null, " ++
    "uid integer not null, name varchar not null, wid integer not null, guid varchar, " ++
    "constraint fk_tags_wid foreign key (wid) " ++
    "   references workspaces(id) on delete no action on update no action," ++
    "constraint fk_tags_uid foreign key (uid) " ++
    "   references users(id) on delete no action on update no action); "),
  ("tags.id",
    "CREATE UNIQUE INDEX id_tags_id ON tags (uid, id); "),
  ("tags.guid",
    "CREATE UNIQUE INDEX id_tags_guid ON tags (uid, guid); "),
  ("time_entries",
    "create table time_entries(local_id integer primary key, id integer, " ++
    "uid integer not null, description varchar, wid integer not null, guid varchar, " ++
    "pid integer, tid integer, billable integer not null default 0," ++
    "duronly integer not null default 0, ui_modified_at integer, start integer not null, " ++
    "stop integer, duration integer not null,tags text,created_with varchar," ++
    "deleted_at integer,updated_at integer," ++
    "constraint fk_time_entries_wid foreign key (wid) " ++
    "   references workspaces(id) on delete no action on update no action, " ++
    "constraint fk_time_entries_pid foreign key (pid) " ++
    "   references projects(id) on delete no action on update no action, " ++
    "constraint fk_time_entries_tid foreign key (tid) " ++
    "   references tasks(id) on delete no action on update no action, " ++
    "constraint fk_time_entries_uid foreign key (uid) " ++
    "   references users(id) on delete no action on update no action); "),
  ("time_entries.id",
    "CREATE UNIQUE INDEX id_time_entries_id ON time_entries (uid, id); "),
  ("time_entries.guid",
    "CREATE UNIQUE INDEX id_time_entries_guid    ON time_entries (uid, guid); "),
  ("time_entries.project_guid",
    "ALTER TABLE time_entries ADD COLUMN project_guid VARCHAR;"),
  ("sessions",
    "create table sessions(local_id integer primary key, api_token varchar not null, " ++
    "active integer not null default 1 ); "),
  ("sessions.active",
    "CREATE UNIQUE INDEX id_sessions_active ON sessions (active); "),
  ("settings",
    "create table settings(local_id integer primary key, " ++
    "use_proxy integer not null default 0, proxy_host varchar, proxy_port integer, " ++
    "proxy_username varchar, proxy_password varchar, " ++
    "use_idle_detection integer not null default 1)"),
  ("settings.update_channel",
    "ALTER TABLE settings " ++
    "ADD COLUMN update_channel varchar not null default \x27stable\x27;"),
  ("settings.default",
    "INSERT INTO settings(update_channel) " ++
    "SELECT \x27stable\x27 WHERE NOT EXISTS (SELECT 1 FROM settings LIMIT 1);"),
  ("timeline_installation",
    "CREATE TABLE timeline_installation(id INTEGER PRIMARY KEY, " ++
    "desktop_id VARCHAR NOT NULL)"),
  ("timeline_installation.desktop_id",
    "CREATE UNIQUE INDEX id_timeline_installation_desktop_id " ++
    "ON timeline_installation(desktop_id);"),
  ("timeline_events",
    "CREATE TABLE timeline_events(id INTEGER PRIMARY KEY, user_id INTEGER NOT NULL, " ++
    "title VARCHAR, filename VARCHAR, start_time INTEGER NOT NULL, end_time INTEGER, " ++
    "idle INTEGER NOT NULL)")]

/-- The `migrate` calls of `initialize_tables`, the first error ending them. -/
def runMigrations : List (String × String) → DB error
  | [] => pure noError
  | (name, sql) :: rest => do
    let err ← migrate name sql
    if err ≠ noError then return err else
    runMigrations rest

/-- `Database::String` on `SELECT desktop_id FROM timeline_installation LIMIT 1`, into
`desktop_id_`. -/
def selectDesktopID : DB error :=
  tryCatch
    (do
      sqlCall
      let w ← get
      set { w with desktopID := w.catalog.desktopIDs.head?.getD "" }
      lastError "String")
    fun exc => pure exc.displayText

/-- `Database::SaveDesktopID`: `INSERT INTO timeline_installation(desktop_id)
VALUES(:desktop_id)`, which the unique index on `desktop_id` refuses for an ID it holds. -/
def saveDesktopID : DB error :=
  tryCatch
    (do
      sqlCall
      let w ← get
      if w.desktopID ∈ w.catalog.desktopIDs then fail "constraint failed" else
      set { w with catalog := { w.catalog with desktopIDs := w.catalog.desktopIDs ++ [w.desktopID] } }
      lastError "SaveDesktopID")
    fun exc => pure exc.displayText

/-- The start of `initialize_tables`: `kopsik_migrations` and its index, created when the
table is missing. These statements stand outside any `try`, so their exceptions escape. -/
def ensureMigrationsTable : DB error := do
  let tableName ← selectMigrationsTable
  let err ← lastError "initialize_tables"
  if err ≠ noError then return err
  if tableName.length = 0 then
    createMigrationsTable
    let err ← lastError "initialize_tables"
    if err ≠ noError then return err
    createMigrationsIndex
    let err ← lastError "initialize_tables"
    if err ≠ noError then return err
  return noError

/-- The end of `initialize_tables`: the stored desktop ID into `desktop_id_`, and a fresh one
saved when there is none. -/
def ensureDesktopID : DB error := do
  let err ← selectDesktopID
  if err ≠ noError then return err
  if (← get).desktopID = "" then
    let guid ← generateGUID
    modify fun w => { w with desktopID := guid }
    let err ← saveDesktopID
    if err ≠ noError then return err
  return noError

/-- `Database::initialize_tables`. -/
def initializeTables : DB error := do
  let err ← ensureMigrationsTable
  if err ≠ noError then return err
  let err ← runMigrations migrations
  if err ≠ noError then return err
  ensureDesktopID

theorem migrations_names_nodup : (migrations.map Prod.fst).Nodup := by decide

theorem migrations_statements_nodup : (migrations.map Prod.snd).Nodup := by decide

/-! What the migrations do when no SQLite call fails spuriously. -/

/-- `migrate` when no call fails spuriously: nothing when the ledger holds the name; the
statement and then the name when it does not and the statement has not taken effect; and, when
the statement has taken effect but the name is not in the ledger, SQLite's refusal, changing
nothing, of a schema statement, or the name recorded after a rerun of the `INSERT`. -/
def Catalog.migrate (c : Catalog) (name sql : String) : error × Catalog :=
  if name ∈ c.ledger then (noError, c)
  else if sql ∈ c.applied then
    if refusedOnRerun sql then ((Exception.sql "already exists").displayText, c)
    else (noError, { c with ledger := c.ledger ++ [name] })
  else (noError, { c with applied := c.applied ++ [sql], ledger := c.ledger ++ [name] })

/-- `runMigrations` when no call fails spuriously. -/
def Catalog.runMigrations : Catalog → List (String × String) → error × Catalog
  | c, [] => (noError, c)
  | c, (name, sql) :: rest =>
    if (c.migrate name sql).1 ≠ noError then c.migrate name sql
    else (c.migrate name sql).2.runMigrations rest

namespace Catalog

/-- The ledger table and its index, as `initialize_tables` creates them when the table is
missing. -/
def opened (c : Catalog) : Catalog :=
  if c.migrationsTable then c else { c with migrationsTable := true, migrationsIndex := true }

@[simp] theorem opened_migrationsTable (c : Catalog) : c.opened.migrationsTable = true := by
  unfold opened; split_ifs with h <;> simp [h]

@[simp] theorem opened_desktopIDs (c : Catalog) : c.opened.desktopIDs = c.desktopIDs := by
  unfold opened; split_ifs <;> rfl

@[simp] theorem opened_applied (c : Catalog) : c.opened.applied = c.applied := by
  unfold opened; split_ifs <;> rfl

@[simp] theorem opened_ledger (c : Catalog) : c.opened.ledger = c.ledger := by
  unfold opened; split_ifs <;> rfl

theorem runMigrations_cons_of_ne (c : Catalog) (h : (c.migrate name sql).1 ≠ noError) :
    c.runMigrations ((name, sql) :: rest) = c.migrate name sql := if_pos h

theorem runMigrations_cons_of_eq (c : Catalog) (h : (c.migrate name sql).1 = noError) :
    c.runMigrations ((name, sql) :: rest) = (c.migrate name sql).2.runMigrations rest :=
  if_neg (not_not.2 h)

theorem migrate_eq (c : Catalog) (name sql : String) :
    ∃ a g, (c.migrate name sql).2 = { c with applied := a, ledger := g } := by
  unfold Catalog.migrate
  split_ifs
  exacts [⟨_, _, rfl⟩, ⟨_, _, rfl⟩, ⟨_, _, rfl⟩, ⟨_, _, rfl⟩]

theorem runMigrations_eq : ∀ (c : Catalog) (l : List (String × String)),
    ∃ a g, (c.runMigrations l).2 = { c with applied := a, ledger := g }
  | c, [] => ⟨_, _, rfl⟩
  | c, (name, sql) :: rest => by
    obtain ⟨a, g, h⟩ := c.migrate_eq name sql
    obtain ⟨a', g', h'⟩ := (c.migrate name sql).2.runMigrations_eq rest
    unfold Catalog.runMigrations
    split_ifs
    · exact ⟨a, g, h⟩
    · exact ⟨a', g', by rw [h', h]⟩

theorem migrate_sub (c : Catalog) (name sql : String) :
    c.applied ⊆ (c.migrate name sql).2.applied ∧ c.ledger ⊆ (c.migrate name sql).2.ledger := by
  unfold Catalog.migrate
  split_ifs <;> simp

theorem runMigrations_sub : ∀ (c : Catalog) (l : List (String × String)),
    c.applied ⊆ (c.runMigrations l).2.applied ∧ c.ledger ⊆ (c.runMigrations l).2.ledger
  | c, [] => ⟨fun _ h => h, fun _ h => h⟩
  | c, (name, sql) :: rest => by
    have h₁ := c.migrate_sub name sql
    have h₂ := (c.migrate name sql).2.runMigrations_sub rest
    unfold Catalog.runMigrations
    split_ifs
    · exact h₁
    · exact ⟨h₁.1.trans h₂.1, h₁.2.trans h₂.2⟩

theorem runMigrations_error : ∀ (c : Catalog) (l : List (String × String)),
    (c.runMigrations l).1 = noError ∨
      (c.runMigrations l).1 = (Exception.sql "already exists").displayText
  | c, [] => .inl rfl
  | c, (name, sql) :: rest => by
    by_cases he : (c.migrate name sql).1 = noError
    · rw [c.runMigrations_cons_of_eq he]
      exact (c.migrate name sql).2.runMigrations_error rest
    · rw [c.runMigrations_cons_of_ne he]
      unfold Catalog.migrate at he ⊢
      split_ifs at he ⊢ <;> simp_all

/-- Migrations whose statements are in effect exactly when their names are recorded, on a
store holding no statement and no name twice, all end in effect and recorded, still none
twice. -/
theorem runMigrations_resumes : ∀ (c : Catalog) (l : List (String × String)),
    (l.map Prod.fst).Nodup → (l.map Prod.snd).Nodup → c.applied.Nodup → c.ledger.Nodup →
    (∀ p ∈ l, p.2 ∈ c.applied ↔ p.1 ∈ c.ledger) →
    (c.runMigrations l).1 = noError ∧ (c.runMigrations l).2.applied.Nodup ∧
      (c.runMigrations l).2.ledger.Nodup ∧
      ∀ p ∈ l, p.2 ∈ (c.runMigrations l).2.applied ∧ p.1 ∈ (c.runMigrations l).2.ledger
  | c, [], _, _, ha, hg, _ => ⟨rfl, ha, hg, fun _ h => absurd h (List.not_mem_nil _)⟩
  | c, (name, sql) :: rest, hn, hs, ha, hg, hr => by
    simp only [List.map_cons, List.nodup_cons, List.mem_map, not_exists, not_and] at hn hs
    have hp := hr (name, sql) (List.mem_cons_self _ _)
    have hr' : ∀ p ∈ rest, p.2 ∈ c.applied ↔ p.1 ∈ c.ledger :=
      fun p hp => hr p (List.mem_cons_of_mem _ hp)
    by_cases hl : name ∈ c.ledger
    · have hm : c.migrate name sql = (noError, c) := if_pos hl
      obtain ⟨he, ha', hg', hall⟩ := c.runMigrations_resumes rest hn.2 hs.2 ha hg hr'
      have hsub := c.runMigrations_sub rest
      refine ⟨?_, ?_, ?_, ?_⟩ <;> simp only [Catalog.runMigrations, hm, ne_eq, not_true_eq_false,
        ↓reduceIte]
      exacts [he, ha', hg', List.forall_mem_cons.2 ⟨⟨hsub.1 (hp.2 hl), hsub.2 hl⟩, hall⟩]
    · have hq : sql ∉ c.applied := fun h => hl (hp.1 h)
      have hm : c.migrate name sql =
          (noError, { c with applied := c.applied ++ [sql], ledger := c.ledger ++ [name] }) := by
        simp [Catalog.migrate, hl, hq]
      obtain ⟨he, ha', hg', hall⟩ := runMigrations_resumes
        { c with applied := c.applied ++ [sql], ledger := c.ledger ++ [name] } rest hn.2 hs.2
        (List.nodup_append.2 ⟨ha, List.nodup_singleton _, by simpa using hq⟩)
        (List.nodup_append.2 ⟨hg, List.nodup_singleton _, by simpa using hl⟩)
        fun p hp => by
          have h₁ : p.2 ≠ sql := fun h => hs.1 p hp h
          have h₂ : p.1 ≠ name := fun h => hn.1 p hp h
          simpa [h₁, h₂] using hr' p hp
      have hsub := runMigrations_sub { c with applied := c.applied ++ [sql], ledger := c.ledger ++ [name] } rest
      refine ⟨?_, ?_, ?_, ?_⟩ <;> simp only [Catalog.runMigrations, hm, ne_eq, not_true_eq_false,
        ↓reduceIte]
      exacts [he, ha', hg', List.forall_mem_cons.2
        ⟨⟨hsub.1 (by simp), hsub.2 (by simp)⟩, hall⟩]

/-- A migration whose schema statement is in effect but whose name is not recorded stops the
migrations with an error, and stays so. -/
theorem runMigrations_stuck : ∀ (c : Catalog) (l : List (String × String)),
    (l.map Prod.fst).Nodup → ∀ p ∈ l, refusedOnRerun p.2 → p.2 ∈ c.applied → p.1 ∉ c.ledger →
    (c.runMigrations l).1 ≠ noError ∧
      p.2 ∈ (c.runMigrations l).2.applied ∧ p.1 ∉ (c.runMigrations l).2.ledger
  | c, [], _, p, hp, _, _, _ => absurd hp (List.not_mem_nil _)
  | c, (name, sql) :: rest, hn, p, hp, hr, ha, hl => by
    simp only [List.map_cons, List.nodup_cons, List.mem_map, not_exists, not_and] at hn
    have herr := (Exception.sql "already exists").displayText_ne_noError
    rcases List.mem_cons.1 hp with rfl | hp
    · have hm : c.migrate name sql = ((Exception.sql "already exists").displayText, c) := by
        simp_all [Catalog.migrate]
      rw [c.runMigrations_cons_of_ne (hm ▸ herr), hm]
      exact ⟨herr, ha, hl⟩
    have hpn : p.1 ≠ name := fun h => hn.1 p hp h
    by_cases hln : name ∈ c.ledger
    · have hm : c.migrate name sql = (noError, c) := if_pos hln
      rw [c.runMigrations_cons_of_eq (by rw [hm]), hm]
      exact c.runMigrations_stuck rest hn.2 p hp hr ha hl
    by_cases hsq : sql ∈ c.applied
    · by_cases hsr : refusedOnRerun sql
      · have hm : c.migrate name sql = ((Exception.sql "already exists").displayText, c) := by
          simp [Catalog.migrate, hln, hsq, hsr]
        rw [c.runMigrations_cons_of_ne (hm ▸ herr), hm]
        exact ⟨herr, ha, hl⟩
      · have hm : c.migrate name sql = (noError, { c with ledger := c.ledger ++ [name] }) := by
          simp [Catalog.migrate, hln, hsq, hsr]
        rw [c.runMigrations_cons_of_eq (by rw [hm]), hm]
        exact runMigrations_stuck _ rest hn.2 p hp hr ha (by simp [hl, hpn])
    · have hm : c.migrate name sql =
          (noError, { c with applied := c.applied ++ [sql], ledger := c.ledger ++ [name] }) := by
        simp [Catalog.migrate, hln, hsq]
      rw [c.runMigrations_cons_of_eq (by rw [hm]), hm]
      exact runMigrations_stuck _ rest hn.2 p hp hr (by simp [ha]) (by simp [hl, hpn])

end Catalog

section Calm

variable {w : World}

@[simp] theorem World.pass_catalog (w : World) : w.pass.catalog = w.catalog := rfl

theorem migrate_calm (hn : name ≠ "") (hs : sql ≠ "") (hf : w.faults = [])
    (ht : w.catalog.migrationsTable = true) :
    wp (migrate name sql)
      (fun r w' => r = (w.catalog.migrate name sql).1 ∧
        ∃ m, w' = { w with catalog := (w.catalog.migrate name sql).2, lastMessage := m })
      (fun _ _ => False) w := by
  rcases w with ⟨tables, savepoint, faults, lastMessage, lastRowid, uuid, drawn, changes,
    catalog, desktopID⟩
  subst hf
  simp only at ht
  by_cases hl : name ∈ catalog.ledger
  · simp [migrate, pocoAssert, hn, hs, countMigrations, wp_sqlCall, World.pass, ht,
      Catalog.migrate, hl, List.count_eq_zero, wp_ite]
  by_cases ha : sql ∈ catalog.applied
  · by_cases hr : refusedOnRerun sql
    · simp [migrate, pocoAssert, hn, hs, countMigrations, executeMigration, wp_sqlCall,
        World.pass, ht, Catalog.migrate, hl, ha, hr, List.count_eq_zero, wp_ite]
    · simp [migrate, pocoAssert, hn, hs, countMigrations, executeMigration, insertMigration,
        wp_sqlCall, World.pass, ht, Catalog.migrate, hl, ha, hr, List.count_eq_zero, wp_ite]
  · simp [migrate, pocoAssert, hn, hs, countMigrations, executeMigration, insertMigration,
      wp_sqlCall, World.pass, ht, Catalog.migrate, hl, ha, List.count_eq_zero, wp_ite]

theorem runMigrations_calm : ∀ (l : List (String × String)) (w : World),
    (∀ p ∈ l, p.1 ≠ "" ∧ p.2 ≠ "") → w.faults = [] → w.catalog.migrationsTable = true →
    wp (runMigrations l)
      (fun r w' => r = (w.catalog.runMigrations l).1 ∧
        ∃ m, w' = { w with catalog := (w.catalog.runMigrations l).2, lastMessage := m })
      (fun _ _ => False) w
  | [], w, _, _, _ => ⟨rfl, w.lastMessage, rfl⟩
  | (name, sql) :: rest, w, hl, hf, ht => by
    have hp := hl (name, sql) (List.mem_cons_self _ _)
    simp only [runMigrations, wp_bind]
    refine wp_mono ?_ (fun _ _ h => h) (migrate_calm hp.1 hp.2 hf ht)
    rintro _ _ ⟨rfl, m, rfl⟩
    by_cases he : (w.catalog.migrate name sql).1 = noError
    · simp only [he, ne_eq, not_true_eq_false, ↓reduceIte]
      obtain ⟨a, g, hc⟩ := w.catalog.migrate_eq name sql
      refine wp_mono ?_ (fun _ _ h => h) (runMigrations_calm rest _
        (fun p hp => hl p (List.mem_cons_of_mem _ hp)) hf (by rw [hc]; exact ht))
      rintro _ _ ⟨rfl, m', rfl⟩
      rw [w.catalog.runMigrations_cons_of_eq he]
      exact ⟨rfl, m', rfl⟩
    · simp only [he, ne_eq, not_false_eq_true, ↓reduceIte, wp_pure]
      rw [w.catalog.runMigrations_cons_of_ne he]
      exact ⟨rfl, m, rfl⟩

theorem migrations_nonempty : ∀ p ∈ migrations, p.1 ≠ "" ∧ p.2 ≠ "" := by decide

theorem ensureMigrationsTable_calm (hf : w.faults = [])
    (hidx : w.catalog.migrationsIndex = true → w.catalog.migrationsTable = true) :
    wp ensureMigrationsTable
      (fun r w' => r = noError ∧ ∃ m, w' = { w with catalog := w.catalog.opened, lastMessage := m })
      (fun _ _ => False) w := by
  rcases w with ⟨tables, savepoint, faults, lastMessage, lastRowid, uuid, drawn, changes,
    catalog, desktopID⟩
  subst hf
  simp only at hidx
  by_cases ht : catalog.migrationsTable
  · have hlen : "kopsik_migrations".length ≠ 0 := by decide
    simp [ensureMigrationsTable, selectMigrationsTable, wp_sqlCall, World.pass, ht, hlen,
      Catalog.opened, wp_ite]
  · have hi : catalog.migrationsIndex = false := by simpa using mt hidx ht
    simp [ensureMigrationsTable, selectMigrationsTable, createMigrationsTable,
      createMigrationsIndex, wp_sqlCall, World.pass, ht, hi, Catalog.opened, wp_ite]

theorem ensureDesktopID_calm (hf : w.faults = []) :
    wp ensureDesktopID
      (fun r w' => w'.faults = [] ∧ (∃ ds, w'.catalog = { w.catalog with desktopIDs := ds }) ∧
        ("" ∉ w.catalog.desktopIDs → r = noError ∧ "" ∉ w'.catalog.desktopIDs))
      (fun _ _ => False) w := by
  rcases w with ⟨tables, savepoint, faults, lastMessage, lastRowid, uuid, drawn, changes,
    catalog, desktopID⟩
  subst hf
  have hg := (uuid drawn).2
  rcases hds : catalog.desktopIDs with _ | ⟨d, ds⟩
  · simp [ensureDesktopID, selectDesktopID, saveDesktopID, wp_sqlCall, World.pass, hds, wp_ite,
      hg, Ne.symm hg]
  by_cases hd : d = ""
  · by_cases hm : (uuid drawn).1 ∈ d :: ds
    · simp [ensureDesktopID, selectDesktopID, saveDesktopID, wp_sqlCall, World.pass, hds,
        wp_ite, hd, hm]
      exact fun _ => ⟨_, rfl⟩
    · simp [ensureDesktopID, selectDesktopID, saveDesktopID, wp_sqlCall, World.pass, hds,
        wp_ite, hd, hm]
      exact fun _ => ⟨_, rfl⟩
  · simp [ensureDesktopID, selectDesktopID, wp_sqlCall, World.pass, hds, wp_ite, hd]
    exact ⟨⟨_, rfl⟩, fun h h' => ⟨h, h'⟩⟩

/-- `initialize_tables` on a store where no call fails spuriously: the migrations change the
store as `Catalog.runMigrations` says, and the desktop ID part only `timeline_installation`;
the run returns the migrations' error, or, on a store with no empty desktop ID, `noError`
after them. -/
theorem initializeTables_calm (hf : w.faults = [])
    (hidx : w.catalog.migrationsIndex = true → w.catalog.migrationsTable = true) :
    wp initializeTables
      (fun r w' => w'.faults = [] ∧
        (∃ ds, w'.catalog = { (w.catalog.opened.runMigrations migrations).2 with desktopIDs := ds }) ∧
        ((w.catalog.opened.runMigrations migrations).1 ≠ noError →
          r = (w.catalog.opened.runMigrations migrations).1) ∧
        ((w.catalog.opened.runMigrations migrations).1 = noError → "" ∉ w.catalog.desktopIDs →
          r = noError ∧ "" ∉ w'.catalog.desktopIDs))
      (fun _ _ => False) w := by
  simp only [initializeTables, wp_bind]
  refine wp_mono ?_ (fun _ _ h => h) (ensureMigrationsTable_calm hf hidx)
  rintro _ _ ⟨rfl, m, rfl⟩
  simp only [ne_eq, not_true_eq_false, ↓reduceIte, wp_bind, wp_pure]
  refine wp_mono ?_ (fun _ _ h => h) (runMigrations_calm migrations
    { w with catalog := w.catalog.opened, lastMessage := m } migrations_nonempty hf
    w.catalog.opened_migrationsTable)
  rintro _ _ ⟨rfl, m', rfl⟩
  obtain ⟨a, g, hc⟩ := w.catalog.opened.runMigrations_eq migrations
  split_ifs with he
  · simp only [wp_bind, wp_pure]
    refine wp_mono ?_ (fun _ _ h => h) (ensureDesktopID_calm hf)
    rintro r w' ⟨hf', ⟨ds, hcat⟩, hd⟩
    refine ⟨hf', ⟨ds, by rw [hcat, hc]⟩, fun h => absurd he h, fun _ hd' => hd ?_⟩
    simpa [hc] using hd'
  · exact ⟨hf, ⟨w.catalog.desktopIDs, by rw [hc, ← w.catalog.opened_desktopIDs]⟩,
      fun _ => rfl, fun h => absurd h he⟩

theorem ensureDesktopID_loads (hf : w.faults = []) (hd : "" ∉ w.catalog.desktopIDs) :
    wp ensureDesktopID
      (fun r w' => r = noError ∧ w'.desktopID ≠ "" ∧
        w'.catalog.desktopIDs.head? = some w'.desktopID ∧
        (w.catalog.desktopIDs ≠ [] → w'.catalog.desktopIDs = w.catalog.desktopIDs))
      (fun _ _ => False) w := by
  rcases w with ⟨tables, savepoint, faults, lastMessage, lastRowid, uuid, drawn, changes,
    catalog, desktopID⟩
  subst hf
  rcases hds : catalog.desktopIDs with _ | ⟨d, ds⟩
  · simp [ensureDesktopID, selectDesktopID, saveDesktopID, wp_sqlCall, World.pass, hds, wp_ite,
      (uuid drawn).2]
  · have hd' : d ≠ "" := fun h => hd (by simp [hds, h])
    simp [ensureDesktopID, selectDesktopID, wp_sqlCall, World.pass, hds, wp_ite, hd']

/-- `initialize_tables` on a store where no call fails, the migrations pass and no desktop ID
is empty loads the desktop ID as `ensureDesktopID_loads` says. -/
theorem initializeTables_loadsDesktopID (hf : w.faults = [])
    (hidx : w.catalog.migrationsIndex = true → w.catalog.migrationsTable = true)
    (he : (w.catalog.opened.runMigrations migrations).1 = noError)
    (hd : "" ∉ w.catalog.desktopIDs) :
    wp initializeTables
      (fun r w' => r = noError ∧ w'.desktopID ≠ "" ∧
        w'.catalog.desktopIDs.head? = some w'.desktopID ∧
        (w.catalog.desktopIDs ≠ [] → w'.catalog.desktopIDs = w.catalog.desktopIDs))
      (fun _ _ => False) w := by
  simp only [initializeTables, wp_bind]
  refine wp_mono ?_ (fun _ _ h => h) (ensureMigrationsTable_calm hf hidx)
  rintro _ _ ⟨rfl, m, rfl⟩
  simp only [ne_eq, not_true_eq_false, ↓reduceIte, wp_bind, wp_pure]
  refine wp_mono ?_ (fun _ _ h => h) (runMigrations_calm migrations
    { w with catalog := w.catalog.opened, lastMessage := m } migrations_nonempty hf
    w.catalog.opened_migrationsTable)
  rintro _ _ ⟨rfl, m', rfl⟩
  obtain ⟨a, g, hc⟩ := w.catalog.opened.runMigrations_eq migrations
  have hds : (w.catalog.opened.runMigrations migrations).2.desktopIDs = w.catalog.desktopIDs := by
    rw [hc, Catalog.opened_desktopIDs]
  simp only [he, ne_eq, not_true_eq_false, ↓reduceIte]
  refine wp_mono ?_ (fun _ _ h => h) (ensureDesktopID_loads hf (hds ▸ hd))
  rintro r w' ⟨rfl, hne, hhead, hkeep⟩
  exact ⟨rfl, hne, hhead, fun h => hds ▸ hkeep (hds ▸ h)⟩

end Calm

/-! Resumption, where it holds and where it does not. -/

/-- A store the migrations resume on: each migration's statement is in effect exactly when its
name is in `kopsik_migrations`, no statement and no name is there twice, there is no index
without the table, and no desktop ID is empty. -/
structure Catalog.Resumable (c : Catalog) : Prop where
  recorded : ∀ p ∈ migrations, p.2 ∈ c.applied ↔ p.1 ∈ c.ledger
  applied_nodup : c.applied.Nodup
  ledger_nodup : c.ledger.Nodup
  index : c.migrationsIndex = true → c.migrationsTable = true
  desktopIDs : "" ∉ c.desktopIDs

theorem Catalog.resumable_empty : ({} : Catalog).Resumable :=
  ⟨fun _ _ => Iff.rfl.trans (by simp), List.nodup_nil, List.nodup_nil, fun h => h, by simp⟩

/-- On a store the migrations resume on (the empty store among them), an `initialize_tables`
run in which no SQLite call fails returns `noError`, and leaves a store they resume on, with
every migration's statement in effect once and its name in `kopsik_migrations` once. -/
theorem initializeTables_resumes (w : World) (hf : w.faults = []) (hr : w.catalog.Resumable) :
    ∃ w', initializeTables.run w = .ok noError w' ∧ w'.catalog.Resumable ∧
      ∀ p ∈ migrations, w'.catalog.applied.count p.2 = 1 ∧ w'.catalog.ledger.count p.1 = 1 := by
  obtain ⟨r, w', hrun, hf', ⟨ds, hcat⟩, -, hok⟩ := exists_ok_of_wp (initializeTables_calm hf hr.index)
  obtain ⟨he, ha, hg, hall⟩ := w.catalog.opened.runMigrations_resumes migrations
    migrations_names_nodup migrations_statements_nodup (by simpa using hr.applied_nodup)
    (by simpa using hr.ledger_nodup) (by simpa using hr.recorded)
  obtain ⟨rfl, hd⟩ := hok he hr.desktopIDs
  obtain ⟨a, g, hc⟩ := w.catalog.opened.runMigrations_eq migrations
  rw [hc] at ha hg hall
  rw [hc] at hcat
  refine ⟨w', hrun, ?_⟩
  rw [hcat] at hd ⊢
  exact ⟨⟨fun p hp => iff_of_true (hall p hp).1 (hall p hp).2, ha, hg, fun _ => by simp, hd⟩,
    fun p hp => ⟨List.count_eq_one_of_mem ha (hall p hp).1, List.count_eq_one_of_mem hg (hall p hp).2⟩⟩

/-- The first start, on an empty store. -/
theorem initializeTables_resumes_empty : ({} : World).faults = [] ∧ ({} : Catalog).Resumable ∧
    ∃ w', initializeTables.run {} = .ok noError w' ∧ w'.catalog.Resumable ∧
      ∀ p ∈ migrations, w'.catalog.applied.count p.2 = 1 ∧ w'.catalog.ledger.count p.1 = 1 :=
  ⟨rfl, Catalog.resumable_empty, initializeTables_resumes {} rfl Catalog.resumable_empty⟩

/-- A store on which a migration's schema statement is in effect while `kopsik_migrations`,
which exists, lacks its name. -/
def Catalog.Stuck (c : Catalog) : Prop :=
  c.migrationsTable = true ∧
    ∃ p ∈ migrations, refusedOnRerun p.2 ∧ p.2 ∈ c.applied ∧ p.1 ∉ c.ledger

/-- A later start: one `initialize_tables` run in which no SQLite call fails. -/
def Restart (w w' : World) : Prop := w.faults = [] ∧ ∃ err, initializeTables.run w = .ok err w'

/-- On a stuck store, a run in which no call fails returns an error and leaves the store
stuck. -/
theorem initializeTables_of_stuck (hf : w.faults = []) (hs : w.catalog.Stuck) :
    ∃ err w', initializeTables.run w = .ok err w' ∧ err ≠ noError ∧ w'.faults = [] ∧
      w'.catalog.Stuck := by
  obtain ⟨r, w', hrun, hf', ⟨ds, hcat⟩, herr, -⟩ :=
    exists_ok_of_wp (initializeTables_calm hf fun _ => hs.1)
  obtain ⟨p, hp, hr, ha, hl⟩ := hs.2
  obtain ⟨hne, ha', hl'⟩ := w.catalog.opened.runMigrations_stuck migrations
    migrations_names_nodup p hp hr (by simpa using ha) (by simpa using hl)
  obtain ⟨a, g, hc⟩ := w.catalog.opened.runMigrations_eq migrations
  rw [hc] at hcat ha' hl'
  refine ⟨r, w', hrun, herr hne ▸ hne, hf', ?_, p, hp, hr, ?_, ?_⟩ <;> rw [hcat]
  exacts [w.catalog.opened_migrationsTable, ha', hl']

/-- Once a migration's statement is in effect while `kopsik_migrations` lacks its name, no
later `initialize_tables` run in which no SQLite call fails returns `noError`, however many such
runs came before it. -/
theorem initializeTables_never_resumes (hs : w.catalog.Stuck)
    (hrun : Relation.ReflTransGen Restart w w') (hf : w'.faults = []) :
    ∃ err w'', initializeTables.run w' = .ok err w'' ∧ err ≠ noError := by
  have hs' : w'.catalog.Stuck := by
    clear hf
    induction hrun with
    | refl => exact hs
    | tail _ hstep ih =>
      obtain ⟨hf₁, err, h⟩ := hstep
      obtain ⟨err', w₂, h', -, -, hs₂⟩ := initializeTables_of_stuck hf₁ ih
      rw [h] at h'
      cases h'
      exact hs₂
  obtain ⟨err, w'', h, he, -⟩ := initializeTables_of_stuck hf hs'
  exact ⟨err, w'', h, he⟩

theorem initializeTables_usersInsertFails :
    ∃ w₁, initializeTables.run { faults := [false, false, false, false, false, true] } =
      .ok "SQL error: disk I/O error" w₁ ∧ w₁.faults = [] ∧ w₁.catalog.Stuck :=
  ⟨_, rfl, rfl, rfl, _, List.mem_cons_self _ _, rfl, List.mem_singleton_self _,
    List.not_mem_nil _⟩

/-- The stuck store of `initializeTables_usersInsertFails`, started again. -/
theorem initializeTables_never_resumes_users :
    ∃ w₁, initializeTables.run { faults := [false, false, false, false, false, true] } =
        .ok "SQL error: disk I/O error" w₁ ∧ w₁.catalog.Stuck ∧
      Relation.ReflTransGen Restart w₁ w₁ ∧ w₁.faults = [] ∧
      ∃ err w₂, initializeTables.run w₁ = .ok err w₂ ∧ err ≠ noError := by
  obtain ⟨w₁, h₁, hf₁, hs₁⟩ := initializeTables_usersInsertFails
  exact ⟨w₁, h₁, hs₁, .refl, hf₁, initializeTables_never_resumes hs₁ .refl hf₁⟩

/-- A run whose one failing call is the first ledger insert, then the next run, with no failing
call: it returns SQLite's refusal of the statement the first run left in effect. -/
theorem initializeTables_lost_ledger_insert :
    ∃ w₁, initializeTables.run { faults := [false, false, false, false, false, true] } =
        .ok "SQL error: disk I/O error" w₁ ∧ w₁.catalog.Stuck ∧
      ∃ w₂, initializeTables.run w₁ = .ok "SQL error: already exists" w₂ := by
  obtain ⟨w₁, h₁, hf₁, hs₁⟩ := initializeTables_usersInsertFails
  obtain ⟨r, w₂, h₂, -, -, herr, -⟩ := exists_ok_of_wp (initializeTables_calm hf₁ fun _ => hs₁.1)
  obtain ⟨p, hp, hr, ha, hl⟩ := hs₁.2
  have hne := (w₁.catalog.opened.runMigrations_stuck migrations migrations_names_nodup p hp hr
    (by simpa using ha) (by simpa using hl)).1
  refine ⟨w₁, h₁, hs₁, w₂, ?_⟩
  rw [h₂, herr hne, (w₁.catalog.opened.runMigrations_error migrations).resolve_left hne]
  rfl

/-! The desktop ID over restarts: the ID `handleCreateTimelineBatchNotification` sends with
each batch is `desktop_id_`, which `initialize_tables` loads from `timeline_installation`. -/

theorem Catalog.Resumable.migrated {c : Catalog} (hr : c.Resumable) (hd : "" ∉ ds) :
    (c.opened.runMigrations migrations).1 = noError ∧
      { (c.opened.runMigrations migrations).2 with desktopIDs := ds }.Resumable := by
  obtain ⟨he, ha, hg, hall⟩ := c.opened.runMigrations_resumes migrations
    migrations_names_nodup migrations_statements_nodup (by simpa using hr.applied_nodup)
    (by simpa using hr.ledger_nodup) (by simpa using hr.recorded)
  obtain ⟨a, g, hc⟩ := c.opened.runMigrations_eq migrations
  exact ⟨he, fun p hp => iff_of_true (hall p hp).1 (hall p hp).2, ha, hg,
    fun _ => by rw [hc]; exact c.opened_migrationsTable, hd⟩

/-- A start in which no call fails, on a store the migrations resume on, leaves one they resume
on, with `desktop_id_` the first ID of `timeline_installation`: the one that was there, or a
fresh one saved in an empty table. -/
theorem Restart.loadsDesktopID (hr : w.catalog.Resumable) (hs : Restart w w') :
    w'.catalog.Resumable ∧ w'.desktopID ≠ "" ∧ w'.catalog.desktopIDs.head? = some w'.desktopID ∧
      (w.catalog.desktopIDs ≠ [] → w'.catalog.desktopIDs = w.catalog.desktopIDs) := by
  obtain ⟨hf, err, hrun⟩ := hs
  have he := (hr.migrated hr.desktopIDs).1
  obtain ⟨-, ⟨ds, hcat⟩, -, hok⟩ := wp_ok (initializeTables_calm hf hr.index) hrun
  obtain ⟨-, hne, hhead, hkeep⟩ :=
    wp_ok (initializeTables_loadsDesktopID hf hr.index he hr.desktopIDs) hrun
  have hd := (hok he hr.desktopIDs).2
  refine ⟨?_, hne, hhead, hkeep⟩
  rw [hcat] at hd ⊢
  exact (hr.migrated hd).2

theorem Restart.exists_of_resumable (hf : w.faults = []) (hr : w.catalog.Resumable) :
    ∃ w', Restart w w' ∧ w'.faults = [] := by
  obtain ⟨r, w', hrun, hf', -⟩ := exists_ok_of_wp (initializeTables_calm hf hr.index)
  exact ⟨w', ⟨hf, r, hrun⟩, hf'⟩

/-- On a store the migrations resume on (the empty store among them), every start in which no
SQLite call fails leaves the same desktop ID in `desktop_id_`, never empty: the first one
`timeline_installation` held before, or, when it held none, the fresh one the first start
saved. -/
theorem initializeTables_keeps_desktopID (hr : w.catalog.Resumable) (h₁ : Restart w w₁)
    (hrun : Relation.ReflTransGen Restart w₁ w₂) :
    w₂.desktopID = w₁.desktopID ∧ w₁.desktopID ≠ "" ∧
      ∀ d ∈ w.catalog.desktopIDs.head?, w₁.desktopID = d := by
  obtain ⟨hr₁, hne, hhead, hkeep⟩ := h₁.loadsDesktopID hr
  have hinv : w₂.catalog.Resumable ∧ w₂.catalog.desktopIDs.head? = some w₁.desktopID ∧
      w₂.desktopID = w₁.desktopID := by
    induction hrun with
    | refl => exact ⟨hr₁, hhead, rfl⟩
    | tail _ hs ih =>
      obtain ⟨hr', -, hhead', hkeep'⟩ := hs.loadsDesktopID ih.1
      have hk := hkeep' fun h => by simp [h] at ih
      rw [hk, ih.2.1] at hhead'
      exact ⟨hr', hk ▸ ih.2.1, (Option.some_injective _ hhead').symm⟩
  refine ⟨hinv.2.2, hne, fun d hd => ?_⟩
  rw [hkeep fun h => by simp [h] at hd, hd] at hhead
  exact (Option.some_injective _ hhead).symm

/-- The first start on an empty store saves a fresh desktop ID, and the next start loads it. -/
theorem initializeTables_keeps_desktopID_twoStarts :
    ∃ w₁ w₂, ({} : Catalog).Resumable ∧ Restart {} w₁ ∧ Restart w₁ w₂ ∧
      w₂.desktopID = w₁.desktopID ∧ w₁.desktopID ≠ "" ∧
      ∀ d ∈ ({} : World).catalog.desktopIDs.head?, w₁.desktopID = d := by
  obtain ⟨w₁, h₁, hf₁⟩ := Restart.exists_of_resumable (w := {}) rfl Catalog.resumable_empty
  obtain ⟨w₂, h₂, -⟩ :=
    Restart.exists_of_resumable hf₁ (h₁.loadsDesktopID Catalog.resumable_empty).1
  exact ⟨w₁, w₂, Catalog.resumable_empty, h₁, h₂,
    initializeTables_keeps_desktopID Catalog.resumable_empty h₁ (.single h₂)⟩

end Kopsik
