import TogglDesktop.Store.Load
import TogglDesktop.Store.Changes
import TogglDesktop.Store.Purge
import TogglDesktop.Store.Progress

namespace Kopsik
set_option autoImplicit true

/-! Save, then load. A `SaveUser` that inserts a new user and new collections writes one row
per model; `LoadUserByID` selects those rows back by the user's ID and reads each into a model
that the save path would write as the same row, but for the one column `loadProjects` does not
select. -/

/-! ### The rows the save path writes -/

/-- A model's row: its `local_id` and the columns its insert statement writes. -/
def Kind.rowOf (k : Kind) (e : Entity k.Data) : Poco.Int64 × k.Row :=
  (e.base.localID, k.spec.insertRow e)

theorem Kind.insertRow_clearDirty (k : Kind) (e : Entity k.Data) (r : Poco.Int64) :
    k.spec.insertRow ((e.setLocalID r).clearDirty) = k.spec.insertRow e := by
  cases k <;> rfl

theorem Kind.rowUID_insertRow (k : Kind) (e : Entity k.Data) :
    k.rowUID (k.spec.insertRow e) = e.base.uid := by
  cases k <;> rfl

/-- A model of a collection as `SaveUser` inserted it: with the user's ID, with a GUID drawn
when its save function ensures one, with the `local_id` its row got, and clean. -/
def Inserted (k : Kind) (uid : Poco.UInt64) (e e' : Entity k.Data) : Prop :=
  ∃ g r, g ≠ "" ∧ e' = ((k.spec.prepare (e.setUID uid) g).setLocalID r).clearDirty

theorem Inserted.uid_eq {k : Kind} {uid : Poco.UInt64} {e e' : Entity k.Data}
    (h : Inserted k uid e e') : e'.base.uid = uid := by
  obtain ⟨g, r, -, rfl⟩ := h
  simp

theorem Inserted.marked {k : Kind} {uid : Poco.UInt64} {e e' : Entity k.Data}
    (h : Inserted k uid e e') :
    e'.base.isMarkedAsDeletedOnServer = e.base.isMarkedAsDeletedOnServer := by
  obtain ⟨g, r, -, rfl⟩ := h
  simp

/-- One pass of a collection's loop over a new model that is not marked as deleted: an insert
of the model's row at the end of its table. -/
theorem Step.inserted {k : Kind} {e e' : Entity k.Data} (h : Step k.spec k.purges uid e w e' w')
    (hl : e.base.localID = 0) (hm : e.base.isMarkedAsDeletedOnServer = false) :
    Inserted k uid e e' ∧
      (w'.tables.get (.of k)).rows = (w.tables.get (.of k)).rows ++ [k.rowOf e'] ∧
      ∀ j, j ≠ .of k → w'.tables.get j = w.tables.get j := by
  cases h with
  | delete _ hm' => simp [hm] at hm'
  | save _ hs =>
    cases hs with
    | skip hsk => simp [Kind.spec_skips, cleanAndStored, hl] at hsk
    | write g hg _ hw =>
      cases hw with
      | update hl' => simp [hl] at hl'
      | insert _ happ htab _ =>
        refine ⟨⟨g, _, hg, rfl⟩, ?_, fun j hj => by rw [htab, Tables.get_set_ne _ hj]⟩
        rw [htab, Tables.get_set, (Table.append_some happ).2.2, Kind.rowOf,
          Kind.insertRow_clearDirty]
        rfl

/-- A collection's loop over new models none of which is marked as deleted: each is inserted,
and their rows are appended to the kind's table in collection order. -/
theorem SavedAll.inserted {k : Kind} {l l' : List (Entity k.Data)}
    (h : SavedAll (Step k.spec k.purges uid) l w l' w')
    (hl : ∀ e ∈ l, e.base.localID = 0 ∧ e.base.isMarkedAsDeletedOnServer = false) :
    List.Forall₂ (Inserted k uid) l l' ∧
      (w'.tables.get (.of k)).rows = (w.tables.get (.of k)).rows ++ l'.map k.rowOf ∧
      ∀ j, j ≠ .of k → w'.tables.get j = w.tables.get j := by
  induction h with
  | nil => exact ⟨.nil, by simp, fun _ _ => rfl⟩
  | cons hs _ ih =>
    have he := hl _ (List.mem_cons_self _ _)
    obtain ⟨hi, hrows, hother⟩ := hs.inserted he.1 he.2
    obtain ⟨hi', hrows', hother'⟩ := ih fun e he => hl e (List.mem_cons_of_mem _ he)
    exact ⟨.cons hi hi', by rw [hrows', hrows]; simp,
      fun j hj => (hother' j hj).trans (hother j hj)⟩

theorem Kind.purge_of_inserted {k : Kind} {l l' : List (Entity k.Data)}
    (h : List.Forall₂ (Inserted k uid) l l')
    (hl : ∀ e ∈ l, e.base.isMarkedAsDeletedOnServer = false) : k.purge l' = l' := by
  have hl' : ∀ e' ∈ l', e'.base.isMarkedAsDeletedOnServer = false := by
    induction h with
    | nil => simp
    | cons hi _ ih =>
      simp only [List.mem_cons, forall_eq_or_imp] at hl ⊢
      exact ⟨hi.marked.trans hl.1, ih hl.2⟩
  unfold Kind.purge
  split
  · exact List.filter_eq_self.2 fun e' he' => by simp [hl' e' he']
  · rfl

/-- The collections' loops over new models none of which is marked as deleted: each kind saved
appends its models' rows to its table, and the users table and the other kinds' tables are left
as they were. -/
theorem SavedRelated.inserted (h : SavedRelated uid ks r w r' w') (hks : ks.Nodup)
    (hr : ∀ k ∈ ks, ∀ e ∈ r.get k, e.base.localID = 0 ∧ e.base.isMarkedAsDeletedOnServer = false) :
    w'.tables.get .users = w.tables.get .users ∧
      (∀ k ∈ ks, List.Forall₂ (Inserted k uid) (r.get k) (r'.get k) ∧
        (w'.tables.get (.of k)).rows = (w.tables.get (.of k)).rows ++ (r'.get k).map k.rowOf) ∧
      ∀ k ∉ ks, r'.get k = r.get k ∧ w'.tables.get (.of k) = w.tables.get (.of k) := by
  induction h with
  | nil => exact ⟨rfl, fun _ h => absurd h (List.not_mem_nil _), fun _ _ => ⟨rfl, rfl⟩⟩
  | @cons k ks r r' w w₁ w' l hk _ ih =>
    obtain ⟨hk₀, hks'⟩ := List.nodup_cons.1 hks
    obtain ⟨hi, hrows, hother⟩ := hk.inserted (hr k (List.mem_cons_self _ _))
    rw [Kind.purge_of_inserted hi fun e he => (hr k (List.mem_cons_self _ _) e he).2] at ih
    have hget : ∀ j ∈ ks, (r.set k l).get j = r.get j := fun j hj =>
      RelatedData.get_set_ne _ (ne_of_mem_of_not_mem hj hk₀) l
    obtain ⟨hu, hin, hout⟩ := ih hks' fun j hj => hget j hj ▸ hr j (List.mem_cons_of_mem _ hj)
    refine ⟨hu.trans (hother _ (by simp)), fun j hj => ?_, fun j hj => ?_⟩
    · by_cases hjk : j = k
      · subst hjk
        obtain ⟨hr', ht⟩ := hout j hk₀
        rw [hr', RelatedData.get_set, ht]
        exact ⟨hi, hrows⟩
      · have hj' := List.mem_of_ne_of_mem hjk hj
        obtain ⟨hi', hrows'⟩ := hin j hj'
        rw [hget j hj'] at hi'
        rw [hrows', hother _ (by simpa using hjk)]
        exact ⟨hi', rfl⟩
    · have hjk : j ≠ k := fun h => hj (h ▸ List.mem_cons_self _ _)
      obtain ⟨hr', ht⟩ := hout j fun h => hj (List.mem_cons_of_mem _ h)
      rw [hr', RelatedData.get_set_ne _ hjk, ht, hother _ (by simpa using hjk)]
      exact ⟨rfl, rfl⟩

/-! ### What the loaders read back -/

/-- Rows in which every column a save statement can leave NULL holds a value. -/
def Kind.nullFree : (k : Kind) → k.Row → Bool
  | .workspace, _ => true
  | .client, row => row.guid.isSome
  | .project, row => row.id.isSome && row.guid.isSome
  | .task, _ => true
  | .tag, row => row.guid.isSome
  | .timeEntry, row => row.id.isSome && row.guid.isSome

/-- Rows whose unsigned columns, `uid` apart, `convert<Poco::UInt64>()` reads back: each below
2^63 (a NULL `id` is left to `nullFree`). -/
def Kind.inRange : (k : Kind) → k.Row → Bool
  | .workspace, row => fitsInt64 row.id
  | .client, row => fitsInt64 row.id && fitsInt64 row.wid
  | .project, row => row.id.all fitsInt64 && fitsInt64 row.wid && fitsInt64 row.cid
  | .task, row => fitsInt64 row.id && fitsInt64 row.wid && fitsInt64 row.pid
  | .tag, row => fitsInt64 row.id && fitsInt64 row.wid
  | .timeEntry, row => row.id.all fitsInt64 && fitsInt64 row.wid && fitsInt64 row.pid &&
      fitsInt64 row.tid && fitsInt64 row.uiModifiedAt && fitsInt64 row.start &&
      fitsInt64 row.stop && fitsInt64 row.deletedAt && fitsInt64 row.updatedAt

/-- Rows a loader's loop reads: no NULL column, and every unsigned column below 2^63. -/
def Kind.readable (k : Kind) (row : k.Row) : Bool :=
  k.nullFree row && k.inRange row && fitsInt64 (k.rowUID row)

/-- The model each loader's loop builds from a row with no NULL column. -/
def Kind.fromRow : (k : Kind) → Poco.Int64 → k.Row → Entity k.Data
  | .workspace, localID, row => {
      base := { localID := localID, id := row.id, uid := row.uid }
      data := { name := row.name, premium := row.premium } }
  | .client, localID, row => {
      base := { localID := localID, id := row.id, uid := row.uid, guid := row.guid.getD "" }
      data := { name := row.name, wid := row.wid } }
  | .project, localID, row => {
      base := {
        localID := localID, id := row.id.getD 0, uid := row.uid, guid := row.guid.getD "" }
      data := {
        name := row.name, wid := row.wid, cid := row.cid, color := row.color,
        active := row.active } }
  | .task, localID, row => {
      base := { localID := localID, id := row.id, uid := row.uid }
      data := { name := row.name, wid := row.wid, pid := row.pid } }
  | .tag, localID, row => {
      base := { localID := localID, id := row.id, uid := row.uid, guid := row.guid.getD "" }
      data := { name := row.name, wid := row.wid } }
  | .timeEntry, localID, row => {
      base := {
        localID := localID, id := row.id.getD 0, uid := row.uid, guid := row.guid.getD "",
        deletedAt := row.deletedAt, updatedAt := row.updatedAt }
      data := {
        description := row.description, wid := row.wid, pid := row.pid, tid := row.tid,
        billable := row.billable, duronly := row.duronly,
        uiModifiedAt := row.uiModifiedAt, start := row.start, stop := row.stop,
        durationInSeconds := row.duration, createdWith := row.createdWith,
        projectGUID := row.projectGUID,
        tagNames := if row.tags = "" then [] else TimeEntry.readTags row.tags.data } }

@[simp] theorem Kind.fromRow_localID (k : Kind) (localID : Poco.Int64) (row : k.Row) :
    (k.fromRow localID row).base.localID = localID := by
  cases k <;> rfl

@[simp] theorem Kind.fromRow_dirty (k : Kind) (localID : Poco.Int64) (row : k.Row) :
    (k.fromRow localID row).base.dirty = false := by
  cases k <;> rfl

theorem TimeEntry.setTags_of_nil (te : TimeEntry) (s : String) (h : te.data.tagNames = []) :
    te.setTags s = {
      base := { te.base with dirty := te.base.dirty || decide ("" ≠ s) }
      data := { te.data with tagNames := if s = "" then [] else TimeEntry.readTags s.data } } := by
  have ht : te.tags = "" := by rw [TimeEntry.tags, h]
  unfold TimeEntry.setTags
  rw [ht]
  by_cases hs : s = ""
  · subst hs
    simp [← h]
  · have he : s.isEmpty = false := Bool.eq_false_iff.2 fun h' => hs ((String.isEmpty_iff s).1 h')
    simp [hs, Ne.symm hs, he, Entity.setDirty]

theorem Kind.read_of_readable (k : Kind) (localID : Poco.Int64) (row : k.Row)
    (h : k.readable row) : k.read localID row = .ok (k.fromRow localID row) := by
  simp only [Kind.readable, Bool.and_eq_true] at h
  obtain ⟨⟨hn, hr⟩, hu⟩ := h
  cases k <;> simp only [Kind.nullFree, Kind.inRange, Kind.rowUID, Bool.and_eq_true,
    Option.isSome_iff_exists] at hn hr hu
  · simp only [Kind.read, readWorkspace, convertUInt64_of_fits, hr, hu, bind, Except.bind]
    simp (disch := rfl) only [Workspace.setName, Workspace.setPremium, Entity.setDataField,
      Entity.setID, Entity.setUID, Entity.setField_eq_assign, Entity.setLocalID, Entity.clearDirty]
    rfl
  · obtain ⟨g, hg⟩ := hn
    simp only [Kind.read, readClient, hg, convert, convertUInt64_of_fits, hr, hu, bind, Except.bind]
    simp (disch := rfl) only [Client.setName, Client.setWID, Entity.setDataField, Entity.setID,
      Entity.setUID, Entity.setGUID, Entity.setField_eq_assign, Entity.setLocalID,
      Entity.clearDirty, Kind.fromRow, hg, Option.getD_some]
    rfl
  · obtain ⟨⟨i, hi⟩, ⟨g, hg⟩⟩ := hn
    simp only [hi, Option.all_some] at hr
    simp only [Kind.read, readProject, hi, hg, convert, convertUInt64_of_fits, hr, hu, bind,
      Except.bind]
    simp (disch := rfl) only [Project.setName, Project.setWID, Project.setColor, Project.setCID,
      Project.setActive, Entity.setDataField, Entity.setID, Entity.setUID, Entity.setGUID,
      Entity.setField_eq_assign, Entity.setLocalID, Entity.clearDirty, Kind.fromRow, hi, hg,
      Option.getD_some]
    rfl
  · simp only [Kind.read, readTask, convertUInt64_of_fits, hr, hu, bind, Except.bind]
    simp (disch := rfl) only [Task.setName, Task.setWID, Task.setPID, Entity.setDataField,
      Entity.setID, Entity.setUID, Entity.setField_eq_assign, Entity.setLocalID, Entity.clearDirty]
    rfl
  · obtain ⟨g, hg⟩ := hn
    simp only [Kind.read, readTag, hg, convert, convertUInt64_of_fits, hr, hu, bind, Except.bind]
    simp (disch := rfl) only [Tag.setName, Tag.setWID, Entity.setDataField, Entity.setID,
      Entity.setUID, Entity.setGUID, Entity.setField_eq_assign, Entity.setLocalID,
      Entity.clearDirty, Kind.fromRow, hg, Option.getD_some]
    rfl
  · obtain ⟨⟨i, hi⟩, ⟨g, hg⟩⟩ := hn
    simp only [hi, Option.all_some] at hr
    simp only [Kind.read, readTimeEntry, hi, hg, convert, convertUInt64_of_fits, hr, hu, bind,
      Except.bind]
    simp (disch := rfl) only [TimeEntry.setDescription, TimeEntry.setWID, TimeEntry.setPID,
      TimeEntry.setTID, TimeEntry.setBillable, TimeEntry.setDurOnly, TimeEntry.setUIModifiedAt,
      TimeEntry.setStart, TimeEntry.setStop, TimeEntry.setDurationInSeconds,
      TimeEntry.setCreatedWith, TimeEntry.setProjectGUID, TimeEntry.setTags_of_nil,
      Entity.setDataField, Entity.setID, Entity.setUID, Entity.setGUID, Entity.setDeletedAt,
      Entity.setUpdatedAt, Entity.setField_eq_assign, Entity.setLocalID, Entity.clearDirty,
      Kind.fromRow, hi, hg, Option.getD_some]
    rfl

theorem Kind.readable_of_read (k : Kind) (localID : Poco.Int64) (row : k.Row)
    {m : Entity k.Data} (h : k.read localID row = .ok m) : k.readable row := by
  cases k <;> simp only [Kind.read, readWorkspace, readClient, readProject, readTask, readTag,
    readTimeEntry, bind, Except.bind] at h <;> repeat' split at h
  all_goals first
    | simp only [reduceCtorEq] at h
    | (clear h
       simp only [convertUInt64_eq_ok_iff, convert_eq_ok_iff] at *
       simp_all [Kind.readable, Kind.nullFree, Kind.inRange, Kind.rowUID])

/-- What a loop body raises: the conversion error of a NULL column, or the range error of an
unsigned column whose stored integer is negative. -/
theorem Kind.read_error (k : Kind) (localID : Poco.Int64) (row : k.Row)
    (h : k.read localID row = .error e) :
    e = .invalidAccess "Can not convert empty value." ∧ k.nullFree row = false ∨
      e = .range "Value too small." ∧ (k.inRange row && fitsInt64 (k.rowUID row)) = false := by
  cases k <;> simp only [Kind.read, readWorkspace, readClient, readProject, readTask, readTag,
    readTimeEntry, bind, Except.bind] at h <;> repeat' split at h
  all_goals first
    | (cases h; done)
    | (cases h
       first
       | (obtain ⟨hv, rfl⟩ := convertUInt64_eq_error ‹convertUInt64 _ = .error _›
          exact .inr ⟨rfl, by simp_all [Kind.inRange, Kind.rowUID]⟩)
       | (obtain ⟨hv, rfl⟩ := convert_eq_error ‹convert _ = .error _›
          exact .inl ⟨rfl, by simp_all [Kind.nullFree]⟩))

/-- The columns a loader reads back: all that the save path writes, but the `billable` column
of projects, which `loadProjects` does not select. -/
def Kind.readColumns : (k : Kind) → k.Row → k.Row
  | .project, row => { row with billable := false }
  | _, row => row

theorem idColumn_getD (i : Poco.UInt64) : idColumn ((idColumn i).getD 0) = idColumn i := by
  unfold idColumn; split_ifs <;> simp_all

theorem guidColumn_getD (g : String) : guidColumn ((guidColumn g).getD "") = guidColumn g := by
  unfold guidColumn; split_ifs <;> simp_all

theorem TimeEntry.tags_of_readTags (te : TimeEntry) (s : String)
    (h : te.data.tagNames = if s = "" then [] else TimeEntry.readTags s.data) : te.tags = s := by
  have hs := TimeEntry.tags_setTags ({ data := {} } : TimeEntry) s
  rw [TimeEntry.setTags_of_nil _ _ rfl] at hs
  unfold TimeEntry.tags at hs ⊢
  rw [h]
  exact hs

theorem Kind.insertRow_fromRow (k : Kind) (localID : Poco.Int64) (e : Entity k.Data) :
    k.spec.insertRow (k.fromRow localID (k.spec.insertRow e)) =
      k.readColumns (k.spec.insertRow e) := by
  cases k
  all_goals simp only [Kind.spec, Kind.fromRow, Kind.readColumns, workspaceSpec, clientSpec,
    projectSpec, taskSpec, tagSpec, timeEntrySpec, workspaceRow, clientRow, projectRow, taskRow,
    tagRow, timeEntryRow, idColumn_getD, guidColumn_getD, Option.getD_some]
  rw [TimeEntry.tags_of_readTags _ (TimeEntry.tags e) rfl]

/-- A model whose row has no NULL column: a client or a tag with a GUID, a project or a time
entry with a server ID (a project's GUID is drawn when it has none). -/
def Kind.writesNoNull : (k : Kind) → Entity k.Data → Prop
  | .client, e => e.base.guid ≠ ""
  | .project, e => e.base.id ≠ 0
  | .tag, e => e.base.guid ≠ ""
  | .timeEntry, e => e.base.id ≠ 0
  | _, _ => True

instance : (k : Kind) → (e : Entity k.Data) → Decidable (k.writesNoNull e)
  | .workspace, _ => inferInstanceAs (Decidable True)
  | .client, e => inferInstanceAs (Decidable (e.base.guid ≠ ""))
  | .project, e => inferInstanceAs (Decidable (e.base.id ≠ 0))
  | .task, _ => inferInstanceAs (Decidable True)
  | .tag, e => inferInstanceAs (Decidable (e.base.guid ≠ ""))
  | .timeEntry, e => inferInstanceAs (Decidable (e.base.id ≠ 0))

theorem SaveSpec.prepare_guid (s : SaveSpec t) (m : Entity t.Data) (g : String) :
    (s.prepare m g).base.guid = if s.ensuresGUID ∧ m.base.guid = "" then g else m.base.guid := by
  unfold SaveSpec.prepare Entity.ensureGUID
  split_ifs <;> simp_all

theorem Inserted.nullFree_iff {k : Kind} {uid : Poco.UInt64} {e e' : Entity k.Data}
    (h : Inserted k uid e e') : k.nullFree (k.spec.insertRow e') = true ↔ k.writesNoNull e := by
  obtain ⟨g, r, hg, rfl⟩ := h
  rw [Kind.insertRow_clearDirty]
  cases k <;> simp only [Kind.writesNoNull, Kind.nullFree, Kind.spec, clientSpec, projectSpec,
    tagSpec, timeEntrySpec, clientRow, projectRow, tagRow, timeEntryRow, idColumn, guidColumn,
    SaveSpec.prepare_id, SaveSpec.prepare_guid, Entity.setUID_id, Entity.setUID_guid]
  all_goals split_ifs <;> simp_all

/-- A model whose row's unsigned columns, `uid` apart, are all below 2^63. -/
def Kind.writesInRange (k : Kind) (e : Entity k.Data) : Prop := k.inRange (k.spec.insertRow e) = true

instance (k : Kind) (e : Entity k.Data) : Decidable (k.writesInRange e) :=
  inferInstanceAs (Decidable (_ = true))

theorem Inserted.inRange_eq {k : Kind} {uid : Poco.UInt64} {e e' : Entity k.Data}
    (h : Inserted k uid e e') : k.inRange (k.spec.insertRow e') = k.inRange (k.spec.insertRow e) := by
  obtain ⟨g, r, -, rfl⟩ := h
  rw [Kind.insertRow_clearDirty]
  cases k <;> simp only [Kind.inRange, Kind.spec, workspaceSpec, clientSpec, projectSpec,
    taskSpec, tagSpec, timeEntrySpec, workspaceRow, clientRow, projectRow, taskRow, tagRow,
    timeEntryRow, SaveSpec.prepare_id, SaveSpec.prepare_data, SaveSpec.prepare_deletedAt,
    SaveSpec.prepare_updatedAt, Entity.setUID_id, Entity.setUID_data, Entity.setUID_deletedAt,
    Entity.setUID_updatedAt]

theorem Inserted.readable_iff {k : Kind} {uid : Poco.UInt64} {e e' : Entity k.Data}
    (h : Inserted k uid e e') : k.readable (k.spec.insertRow e') = true ↔
      k.writesNoNull e ∧ k.writesInRange e ∧ fitsInt64 uid = true := by
  rw [Kind.readable, Bool.and_eq_true, Bool.and_eq_true, h.nullFree_iff, h.inRange_eq,
    Kind.rowUID_insertRow, h.uid_eq, Kind.writesInRange, and_assoc]

/-! ### Save, then load -/

theorem Kind.readRows_of_readable (k : Kind) (rows : List (Poco.Int64 × k.Row))
    (h : ∀ p ∈ rows, k.readable p.2) :
    readRows k.read rows = (rows.map fun p => k.fromRow p.1 p.2, none) :=
  readRows_of_ok _ _ rows fun p hp => k.read_of_readable p.1 p.2 (h p hp)

theorem Kind.readRows_snd_eq_none (k : Kind) (rows : List (Poco.Int64 × k.Row)) :
    (readRows k.read rows).2 = none ↔ ∀ p ∈ rows, k.readable p.2 := by
  rw [Kopsik.readRows_snd_eq_none]
  exact forall₂_congr fun p _ =>
    ⟨fun ⟨_, h⟩ => k.readable_of_read _ _ h, fun h => ⟨_, k.read_of_readable _ _ h⟩⟩

theorem Kind.mem_select (k : Kind) {tab : Table k.Row} {p : Poco.Int64 × k.Row} :
    p ∈ k.select UID tab ↔ p ∈ tab.rows ∧ k.rowUID p.2 = UID := by
  simp [Kind.select, selectRows, (List.perm_insertionSort _ _).mem_iff]

theorem Kind.select_perm (k : Kind) {tab : Table k.Row} {old news : List (Poco.Int64 × k.Row)}
    (htab : tab.rows = old ++ news) (hold : ∀ p ∈ old, k.rowUID p.2 ≠ UID)
    (hnew : ∀ p ∈ news, k.rowUID p.2 = UID) : (k.select UID tab).Perm news := by
  unfold Kind.select selectRows
  rw [htab, List.filter_append, List.filter_eq_nil_iff.2 (by simpa using hold),
    List.filter_eq_self.2 (by simpa using hnew), List.nil_append]
  exact List.perm_insertionSort _ _

theorem Kind.select_perm_inserted (k : Kind) {tab : Table k.Row} {old : List (Poco.Int64 × k.Row)}
    {l l' : List (Entity k.Data)} (htab : tab.rows = old ++ l'.map k.rowOf)
    (hold : ∀ p ∈ old, k.rowUID p.2 ≠ UID) (hi : List.Forall₂ (Inserted k UID) l l') :
    (k.select UID tab).Perm (l'.map k.rowOf) :=
  k.select_perm htab hold fun p hp => by
    obtain ⟨e', he', rfl⟩ := List.mem_map.1 hp
    obtain ⟨e, -, hie⟩ := forall₂_mem_right hi he'
    rw [Kind.rowOf, Kind.rowUID_insertRow, hie.uid_eq]

/-- `SaveUser` with related data of a new user whose collections hold only new models, none
marked as deleted, on a store with no row of the user's ID: the user's row is the first of its
ID, under the `local_id` the user got; each model is inserted, and each collection's rows are
the store's former rows followed by those of its models. -/
theorem saveUser_inserts (G : User) (w : World) (G' : User) (w' : World)
    (hnew : G.base.localID = 0)
    (hrel : ∀ k : Kind, ∀ e ∈ G.data.related.get k,
      e.base.localID = 0 ∧ e.base.isMarkedAsDeletedOnServer = false)
    (hstore : ∀ p ∈ w.tables.users.rows, p.2.id ≠ G.base.id)
    (h : (saveUser G true).run w = .ok (noError, G') w') :
    G.base.id ≠ 0 ∧
      w'.tables.users.rows.find? (·.2.id = G.base.id) = some (G'.base.localID, userRow G) ∧
      ∀ k : Kind, List.Forall₂ (Inserted k G.base.id) (G.data.related.get k) (G'.data.related.get k) ∧
        (w'.tables.get (.of k)).rows =
          (w.tables.get (.of k)).rows ++ (G'.data.related.get k).map k.rowOf := by
  obtain ⟨hvalid, -, hrow, hrel', hend⟩ := (wp_ok (saveUser_spec G true w) h).1 rfl
  rw [if_pos (by simp [hnew])] at hrow
  obtain ⟨r', hsr, rfl⟩ := hrel'
  obtain ⟨husers, hin, -⟩ := hsr.inserted (by decide) fun k _ => hrel k
  cases hrow with
  | update hl => exact absurd hnew hl
  | @insert r tab' _ _ happ htab _ =>
    refine ⟨hvalid.2.2, ?_, fun k => ⟨(hin k (by cases k <;> decide)).1, ?_⟩⟩
    · have hu : (w'.tables.get .users).rows = (w.tables.get .users).rows ++ [(r, userRow G)] := by
        rw [hend.1, husers, htab, Tables.get_set, (Table.append_some happ).2.2]
        rfl
      change (w'.tables.get .users).rows.find? _ = _
      rw [hu, List.find?_append, List.find?_eq_none.2 (by simpa using hstore)]
      simp [userRow]
    · rw [hend.1, (hin k (by cases k <;> decide)).2, htab, Tables.get_set_ne _ (by simp)]

theorem noRowsOf_empty (UID : Poco.UInt64) :
    (∀ p ∈ ({} : World).tables.users.rows, p.2.id ≠ UID) ∧
      ∀ k : Kind, ∀ p ∈ (({} : World).tables.get (.of k)).rows, k.rowUID p.2 ≠ UID :=
  ⟨fun _ hp => absurd hp (List.not_mem_nil _), fun k _ hp => by
    cases k <;> exact absurd hp (List.not_mem_nil _)⟩

theorem firstError_of_loaded (hall : ∀ j ∈ ks, ∀ e, (j.loaded UID w).2 = some e → e = e₀)
    (hk : k ∈ ks) (h : (k.loaded UID w).2 ≠ none) : firstError UID w ks = e₀.displayText := by
  induction ks with
  | nil => simp at hk
  | cons j ks ih =>
    unfold firstError
    split
    · rename_i e he
      rw [hall j (List.mem_cons_self _ _) e he]
    · rename_i hj
      have hkj : k ≠ j := by rintro rfl; exact h hj
      exact ih (fun i hi => hall i (List.mem_cons_of_mem _ hi)) (List.mem_of_ne_of_mem hkj hk)

/-- `SaveUser` with related data of a new user whose collections hold only new models, none
marked as deleted, on a store with no row of the user's ID, then `LoadUserByID` on the store it
left: when the row of one of those models cannot be read and every such row raises `e₀`, the
call returns the text of `e₀`. -/
theorem saveUser_loadUserByID_raises (G : User) (w : World) (G' : User) (w' : World) (U₀ : User)
    (e₀ : Exception) (hnew : G.base.localID = 0)
    (hrel : ∀ k : Kind, ∀ e ∈ G.data.related.get k,
      e.base.localID = 0 ∧ e.base.isMarkedAsDeletedOnServer = false)
    (hstore : (∀ p ∈ w.tables.users.rows, p.2.id ≠ G.base.id) ∧
      ∀ k : Kind, ∀ p ∈ (w.tables.get (.of k)).rows, k.rowUID p.2 ≠ G.base.id)
    (h : (saveUser G true).run w = .ok (noError, G') w')
    (hall : ∀ k : Kind, ∀ e ∈ G.data.related.get k, ∀ e', Inserted k G.base.id e e' →
      ∀ l exc, k.read l (k.spec.insertRow e') = .error exc → exc = e₀)
    (hbad : ∃ k : Kind, ∃ e ∈ G.data.related.get k, ∀ e', Inserted k G.base.id e e' →
      k.readable (k.spec.insertRow e') = false) :
    ∃ U w'', (loadUserByID G.base.id U₀ true).run { w' with faults := [] } =
      .ok (e₀.displayText, U) w'' := by
  obtain ⟨hu, hfind, hin⟩ := saveUser_inserts G w G' w' hnew hrel hstore.1 h
  have hperm := fun k : Kind => k.select_perm_inserted (hin k).2 (hstore.2 k) (hin k).1
  have hraises : ∀ k ∈ relatedKinds, ∀ exc,
      (k.loaded G.base.id { w' with faults := [] }).2 = some exc → exc = e₀ := by
    intro k _ exc hexc
    obtain ⟨p, hp, hr⟩ := readRows_snd_eq_some _ _ hexc
    obtain ⟨e', he', rfl⟩ := List.mem_map.1 ((hperm k).subset hp)
    obtain ⟨e, he, hie⟩ := forall₂_mem_right (hin k).1 he'
    exact hall k e he e' hie _ _ hr
  obtain ⟨k, e, he, hk⟩ := hbad
  obtain ⟨e', he', hie⟩ := forall₂_mem_left (hin k).1 he
  have hraise : (k.loaded G.base.id { w' with faults := [] }).2 ≠ none := fun hnone =>
    absurd (((k.readRows_snd_eq_none _).1 hnone) _
      ((hperm k).symm.subset (List.mem_map_of_mem _ he'))) (by simp [Kind.rowOf, hk e' hie])
  obtain ⟨⟨err, U⟩, w'', hrun, rfl, -⟩ := exists_ok_of_wp
    (loadUserByID_spec U₀ hu (show ({ w' with faults := [] } : World).faults = [] from rfl) hfind)
  rw [firstError_of_loaded hraises (by cases k <;> decide) hraise] at hrun
  exact ⟨U, w'', hrun⟩

/-- The same save and load, when the models are written with their unsigned columns below 2^63
under a user ID below 2^63 and one of them with a NULL column (a client or a tag without a GUID,
a project or a time entry without a server ID): the call returns the conversion error. -/
theorem saveUser_loadUserByID_null (G : User) (w : World) (G' : User) (w' : World) (U₀ : User)
    (hnew : G.base.localID = 0)
    (hrel : ∀ k : Kind, ∀ e ∈ G.data.related.get k,
      e.base.localID = 0 ∧ e.base.isMarkedAsDeletedOnServer = false ∧ k.writesInRange e)
    (hid : fitsInt64 G.base.id = true)
    (hstore : (∀ p ∈ w.tables.users.rows, p.2.id ≠ G.base.id) ∧
      ∀ k : Kind, ∀ p ∈ (w.tables.get (.of k)).rows, k.rowUID p.2 ≠ G.base.id)
    (h : (saveUser G true).run w = .ok (noError, G') w')
    (hnull : ∃ k : Kind, ∃ e ∈ G.data.related.get k, ¬ k.writesNoNull e) :
    ∃ U w'', (loadUserByID G.base.id U₀ true).run { w' with faults := [] } =
      .ok ((Exception.invalidAccess "Can not convert empty value.").displayText, U) w'' := by
  refine saveUser_loadUserByID_raises G w G' w' U₀ _ hnew
    (fun k e he => ⟨(hrel k e he).1, (hrel k e he).2.1⟩) hstore h
    (fun k e he e' hie l exc hr => ?_) ?_
  · rcases k.read_error l _ hr with ⟨rfl, -⟩ | ⟨-, hbad⟩
    · rfl
    · rw [hie.inRange_eq, (hrel k e he).2.2, Kind.rowUID_insertRow, hie.uid_eq, hid] at hbad
      cases hbad
  · obtain ⟨k, e, he, hw⟩ := hnull
    exact ⟨k, e, he, fun e' hie => Bool.eq_false_iff.2 fun hr => hw (hie.readable_iff.1 hr).1⟩

/-- A new user with a client that has no GUID, saved on an empty store, then loaded: the
client's row has a NULL `guid`, and the load returns the conversion error. -/
theorem saveUser_loadUserByID_null_clientWithoutGUID :
    let G : User := { base := { id := 1 }, data := {
      email := "a", apiToken := "t", related := { clients := [{ base := { id := 2 }, data := {} }] } } }
    ∃ G' w', (saveUser G true).run {} = .ok (noError, G') w' ∧ ∃ U w'',
      (loadUserByID 1 { data := {} } true).run { w' with faults := [] } =
        .ok ((Exception.invalidAccess "Can not convert empty value.").displayText, U) w'' := by
  intro G
  obtain ⟨G', w', h, -⟩ := saveUser_new_ok_empty G (by decide) rfl fun k => by cases k <;> decide
  exact ⟨G', w', h, saveUser_loadUserByID_null G {} G' w' { data := {} } rfl
    (fun k => by cases k <;> decide) (by decide) (noRowsOf_empty 1) h
    ⟨.client, _, List.mem_singleton_self _, by decide⟩⟩

/-- The same save and load, when the models are written with no NULL column and one of them with
an unsigned column, or the user with an ID, of 2^63 or more: the value is stored as a negative
integer, and the call returns the range error `convert<Poco::UInt64>()` raises. -/
theorem saveUser_loadUserByID_outOfRange (G : User) (w : World) (G' : User) (w' : World)
    (U₀ : User) (hnew : G.base.localID = 0)
    (hrel : ∀ k : Kind, ∀ e ∈ G.data.related.get k,
      e.base.localID = 0 ∧ e.base.isMarkedAsDeletedOnServer = false ∧ k.writesNoNull e)
    (hstore : (∀ p ∈ w.tables.users.rows, p.2.id ≠ G.base.id) ∧
      ∀ k : Kind, ∀ p ∈ (w.tables.get (.of k)).rows, k.rowUID p.2 ≠ G.base.id)
    (h : (saveUser G true).run w = .ok (noError, G') w')
    (hbig : ∃ k : Kind, ∃ e ∈ G.data.related.get k,
      ¬ (k.writesInRange e ∧ fitsInt64 G.base.id = true)) :
    ∃ U w'', (loadUserByID G.base.id U₀ true).run { w' with faults := [] } =
      .ok ((Exception.range "Value too small.").displayText, U) w'' := by
  refine saveUser_loadUserByID_raises G w G' w' U₀ _ hnew
    (fun k e he => ⟨(hrel k e he).1, (hrel k e he).2.1⟩) hstore h
    (fun k e he e' hie l exc hr => ?_) ?_
  · rcases k.read_error l _ hr with ⟨-, hbad⟩ | ⟨rfl, -⟩
    · exact absurd (hie.nullFree_iff.2 (hrel k e he).2.2) (by simp [hbad])
    · rfl
  · obtain ⟨k, e, he, hw⟩ := hbig
    exact ⟨k, e, he, fun e' hie => Bool.eq_false_iff.2 fun hr =>
      hw ((hie.readable_iff.1 hr).2)⟩

/-- A new user with a workspace whose ID is 2^63, saved on an empty store, then loaded: the ID
is stored as a negative integer, and the load returns the range error. -/
theorem saveUser_loadUserByID_outOfRange_bigWorkspaceID :
    let G : User := { base := { id := 1 }, data := {
      email := "a", apiToken := "t",
      related := { workspaces := [{ base := { id := 0x8000000000000000 }, data := {} }] } } }
    ∃ G' w', (saveUser G true).run {} = .ok (noError, G') w' ∧ ∃ U w'',
      (loadUserByID 1 { data := {} } true).run { w' with faults := [] } =
        .ok ((Exception.range "Value too small.").displayText, U) w'' := by
  intro G
  obtain ⟨G', w', h, -⟩ := saveUser_new_ok_empty G (by decide) rfl fun k => by cases k <;> decide
  exact ⟨G', w', h, saveUser_loadUserByID_outOfRange G {} G' w' { data := {} } rfl
    (fun k => by cases k <;> decide) (noRowsOf_empty 1) h
    ⟨.workspace, _, List.mem_singleton_self _, by decide⟩⟩

/-- `SaveUser` with related data of a new user whose collections hold only new models, none
marked as deleted, none with a NULL column and all with their unsigned columns below 2^63, under
a user ID below 2^63, on a store with no row of the user's ID, then `LoadUserByID` on the store
it left, with no SQLite call failing: the user's row comes back, and each collection as the
models read from the rows the save wrote. -/
theorem saveUser_loadUserByID_rows (G : User) (w : World) (G' : User) (w' : World) (U₀ : User)
    (hnew : G.base.localID = 0)
    (hrel : ∀ k : Kind, ∀ e ∈ G.data.related.get k, e.base.localID = 0 ∧
      e.base.isMarkedAsDeletedOnServer = false ∧ k.writesNoNull e ∧ k.writesInRange e)
    (hid : fitsInt64 G.base.id = true)
    (hstore : (∀ p ∈ w.tables.users.rows, p.2.id ≠ G.base.id) ∧
      ∀ k : Kind, ∀ p ∈ (w.tables.get (.of k)).rows, k.rowUID p.2 ≠ G.base.id)
    (h : (saveUser G true).run w = .ok (noError, G') w') :
    ∃ U w'', (loadUserByID G.base.id U₀ true).run { w' with faults := [] } = .ok (noError, U) w'' ∧
      userRow U = userRow G ∧ U.base.localID = G'.base.localID ∧
      ∀ k : Kind, List.Forall₂ (Inserted k G.base.id) (G.data.related.get k) (G'.data.related.get k) ∧
        (U.data.related.get k).Perm
          ((G'.data.related.get k).map fun e => k.fromRow e.base.localID (k.spec.insertRow e)) := by
  obtain ⟨hu, hfind, hin⟩ := saveUser_inserts G w G' w' hnew
    (fun k e he => ⟨(hrel k e he).1, (hrel k e he).2.1⟩) hstore.1 h
  have hperm := fun k : Kind => k.select_perm_inserted (hin k).2 (hstore.2 k) (hin k).1
  have hread : ∀ k : Kind, k.loaded G.base.id { w' with faults := [] } =
      ((k.select G.base.id (w'.tables.get (.of k))).map fun p => k.fromRow p.1 p.2, none) :=
    fun k => k.readRows_of_readable _ fun p hp => by
      obtain ⟨e', he', rfl⟩ := List.mem_map.1 ((hperm k).subset hp)
      obtain ⟨e, he, hie⟩ := forall₂_mem_right (hin k).1 he'
      exact hie.readable_iff.2 ⟨(hrel k e he).2.2.1, (hrel k e he).2.2.2, hid⟩
  have hnone : firstError G.base.id { w' with faults := [] } relatedKinds = noError := by
    simp only [relatedKinds, firstError, hread]
  obtain ⟨⟨err, U⟩, w'', hrun, rfl, hU, hlocal, hget⟩ := exists_ok_of_wp
    (loadUserByID_spec U₀ hu (show ({ w' with faults := [] } : World).faults = [] from rfl) hfind)
  rw [hnone] at hrun hget
  refine ⟨U, w'', hrun, hU, hlocal, fun k => ⟨(hin k).1, ?_⟩⟩
  rw [hget rfl k, hread k]
  refine ((hperm k).map _).trans ?_
  rw [List.map_map]
  exact List.Perm.refl _

/-- A model loaded back as the model saved: the same `local_id`, clean, and the columns the save
wrote, but for those no loader selects. -/
def Kind.LoadedAs (k : Kind) (e e' : Entity k.Data) : Prop :=
  e'.base.localID = e.base.localID ∧ e'.base.dirty = false ∧
    k.spec.insertRow e' = k.readColumns (k.spec.insertRow e)

/-- Save, then load. `SaveUser` with related data of a new user whose collections hold only new
models, none marked as deleted, none written with a NULL column and all with their unsigned
columns below 2^63, under a user ID below 2^63, returns `noError` on a store with no row of the
user's ID; `LoadUserByID` of that ID on the store it left, with no SQLite call failing, then
returns `noError`, the user's columns and the `local_id` the save gave the user, and each
collection as a permutation of the one the save left, model by model as saved. -/
theorem saveUser_then_loadUserByID (G : User) (w : World) (G' : User) (w' : World) (U₀ : User)
    (hnew : G.base.localID = 0)
    (hrel : ∀ k : Kind, ∀ e ∈ G.data.related.get k, e.base.localID = 0 ∧
      e.base.isMarkedAsDeletedOnServer = false ∧ k.writesNoNull e ∧ k.writesInRange e)
    (hid : fitsInt64 G.base.id = true)
    (hstore : (∀ p ∈ w.tables.users.rows, p.2.id ≠ G.base.id) ∧
      ∀ k : Kind, ∀ p ∈ (w.tables.get (.of k)).rows, k.rowUID p.2 ≠ G.base.id)
    (h : (saveUser G true).run w = .ok (noError, G') w') :
    ∃ U w'', (loadUserByID G.base.id U₀ true).run { w' with faults := [] } = .ok (noError, U) w'' ∧
      userRow U = userRow G ∧ U.base.localID = G'.base.localID ∧
      ∀ k : Kind, ∃ l, l.Perm (U.data.related.get k) ∧
        List.Forall₂ k.LoadedAs (G'.data.related.get k) l := by
  obtain ⟨U, w'', hrun, hU, hlocal, hk⟩ :=
    saveUser_loadUserByID_rows G w G' w' U₀ hnew hrel hid hstore h
  refine ⟨U, w'', hrun, hU, hlocal, fun k => ⟨_, (hk k).2.symm, ?_⟩⟩
  rw [List.forall₂_map_right_iff]
  exact List.forall₂_same.2 fun e _ =>
    ⟨k.fromRow_localID _ _, k.fromRow_dirty _ _, k.insertRow_fromRow _ e⟩

/-- A new user with a new workspace and a new project in it, saved on an empty store, then
loaded. -/
theorem saveUser_then_loadUserByID_workspaceProject :
    let G : User := { base := { id := 1 }, data := {
      email := "a", apiToken := "t", related := {
        workspaces := [{ base := { id := 3 }, data := {} }],
        projects := [{ base := { id := 2 }, data := { wid := 3 } }] } } }
    ∃ G' w', (saveUser G true).run {} = .ok (noError, G') w' ∧
      ∃ U w'', (loadUserByID 1 { data := {} } true).run { w' with faults := [] } =
        .ok (noError, U) w'' ∧
        userRow U = userRow G ∧ U.base.localID = G'.base.localID ∧
        ∀ k : Kind, ∃ l, l.Perm (U.data.related.get k) ∧
          List.Forall₂ k.LoadedAs (G'.data.related.get k) l := by
  intro G
  obtain ⟨G', w', h, -⟩ := saveUser_new_ok_empty G (by decide) rfl fun k => by cases k <;> decide
  exact ⟨G', w', h, saveUser_then_loadUserByID G {} G' w' { data := {} } rfl
    (fun k => by cases k <;> decide) (by decide) (noRowsOf_empty 1) h⟩

/-- A new user with a billable project, saved on an empty store, then loaded: the save keeps
the project billable and writes its `billable` column, but `loadProjects` does not select that
column, and the project comes back not billable. -/
theorem saveUser_loadUserByID_loses_billable :
    let G : User := { base := { id := 1 }, data := {
      email := "a", apiToken := "t",
      related := { projects := [{ base := { id := 2 }, data := { billable := true } }] } } }
    ∃ G' w', (saveUser G true).run {} = .ok (noError, G') w' ∧
      G'.data.related.projects.map (·.data.billable) = [true] ∧ ∀ U₀ : User, ∃ U w'',
        (loadUserByID 1 U₀ true).run { w' with faults := [] } = .ok (noError, U) w'' ∧
        U.data.related.projects.map (·.data.billable) = [false] := by
  intro G
  obtain ⟨G', w', h, -⟩ := saveUser_new_ok_empty G (by decide) rfl fun k => by cases k <;> decide
  have hrel : ∀ k : Kind, ∀ e ∈ G.data.related.get k, e.base.localID = 0 ∧
      e.base.isMarkedAsDeletedOnServer = false ∧ k.writesNoNull e ∧ k.writesInRange e :=
    fun k => by cases k <;> decide
  obtain ⟨-, -, hin⟩ := saveUser_inserts G {} G' w' rfl (fun k e he => ⟨(hrel k e he).1,
    (hrel k e he).2.1⟩) (noRowsOf_empty 1).1 h
  obtain ⟨p', hp'⟩ := List.length_eq_one.1 (hin .project).1.length_eq.symm
  obtain ⟨g, r, -, hpe⟩ := List.forall₂_cons.1 (hp' ▸ (hin .project).1) |>.1
  refine ⟨G', w', h, ?_, fun U₀ => ?_⟩
  · rw [show G'.data.related.projects = [p'] from hp', hpe]
    simp [G]
  obtain ⟨U, w'', hrun, -, -, hk⟩ :=
    saveUser_loadUserByID_rows G {} G' w' U₀ rfl hrel (by decide) (noRowsOf_empty 1) h
  have hp := (hk .project).2
  rw [show G'.data.related.get .project = [p'] from hp', List.map_singleton,
    List.perm_singleton] at hp
  exact ⟨U, w'', hrun, by rw [show U.data.related.projects = _ from hp]; rfl⟩

end Kopsik
