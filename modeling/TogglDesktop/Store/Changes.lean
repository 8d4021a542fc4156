import TogglDesktop.Store.Spec

namespace Kopsik
set_option autoImplicit true

/-! The change records `SaveUser` appends: exactly one per row it writes, in the order it
writes them, each naming the model's kind, the change, and the model's ID. -/

/-- What a change record says besides the GUID. -/
def ModelChange.key (c : ModelChange) : String × String × Poco.UInt64 :=
  (c.modelType, c.changeType, c.modelID)

/-- The record owed to the user: an insert when it has no `local_id`, an update when it is
dirty, none otherwise. -/
def userChange (m : User) : List (String × String × Poco.UInt64) :=
  if m.base.localID = 0 then [(User.modelName, "insert", m.base.id)]
  else if m.base.dirty then [(User.modelName, "update", m.base.id)] else []

/-- The record owed to one model of a collection, from the model as it was before the call:
a delete for a project or time entry marked as deleted on the server, an insert for a model
with no `local_id`, an update for one that is dirty once it has the user's ID (a delete for a
time entry with `DeletedAt` set), and none for a clean stored model. -/
def Kind.expectedChange (uid : Poco.UInt64) (k : Kind) (m : Entity k.Data) :
    List (String × String × Poco.UInt64) :=
  if k.purges && m.base.isMarkedAsDeletedOnServer then [(k.modelName, "delete", m.base.id)]
  else if m.base.localID = 0 then [(k.modelName, "insert", m.base.id)]
  else if (m.setUID uid).base.dirty then
    [(k.modelName, if k = .timeEntry ∧ m.base.deletedAt ≠ 0 then "delete" else "update", m.base.id)]
  else []

theorem Kind.spec_skips (k : Kind) (m : Entity k.Data) : k.spec.skips m = cleanAndStored m := by
  cases k <;> simp only [Kind.spec, workspaceSpec, clientSpec, projectSpec, taskSpec, tagSpec,
    timeEntrySpec, savedAlready_eq_cleanAndStored]

theorem Kind.spec_updateChange (k : Kind) (m : Entity k.Data) : k.spec.updateChange m =
    if k = .timeEntry ∧ m.base.deletedAt ≠ 0 then "delete" else "update" := by
  cases k <;> simp [Kind.spec, workspaceSpec, clientSpec, projectSpec, taskSpec, tagSpec,
    timeEntrySpec]

theorem Step.changes {k : Kind} {m m' : Entity k.Data} (h : Step k.spec k.purges uid m w m' w') :
    ∃ new, w'.changes = w.changes ++ new ∧ new.map ModelChange.key = k.expectedChange uid m := by
  cases h with
  | delete hp hm _ _ hch =>
    exact ⟨_, hch, by simp [Kind.expectedChange, hp, hm, ModelChange.key, TableName.modelName]⟩
  | save hm hs =>
    have hm' : (k.purges && m.base.isMarkedAsDeletedOnServer) = false := hm
    cases hs with
    | skip hsk =>
      rw [Kind.spec_skips] at hsk
      simp only [cleanAndStored, Entity.setUID_localID, Bool.and_eq_true, decide_eq_true_eq,
        Bool.not_eq_true'] at hsk
      refine ⟨[], by simp, ?_⟩
      rw [Kind.expectedChange, if_neg (by simp [hm']), if_neg hsk.1, if_neg (by simp [hsk.2])]
      rfl
    | write g _ hsk hw =>
      rw [Kind.spec_skips] at hsk
      simp only [cleanAndStored, Bool.and_eq_false_iff, decide_eq_false_iff_not, not_not,
        Bool.not_eq_false'] at hsk
      cases hw with
      | update hl _ hch =>
        refine ⟨_, hch, ?_⟩
        have hl' : m.base.localID ≠ 0 := by simpa using hl
        have hd : (m.setUID uid).base.dirty = true := hsk.resolve_left (by simpa using hl')
        rw [Kind.expectedChange, if_neg (by simp [hm']), if_neg hl', if_pos hd]
        simp [ModelChange.key, TableName.modelName, Kind.spec_updateChange]
      | insert hl _ _ hch =>
        refine ⟨_, hch, ?_⟩
        have hl' : m.base.localID = 0 := by simpa using hl
        simp [Kind.expectedChange, hm', hl', ModelChange.key, TableName.modelName]

theorem SavedAll.changes {k : Kind} {l l' : List (Entity k.Data)}
    (h : SavedAll (Step k.spec k.purges uid) l w l' w') :
    ∃ new, w'.changes = w.changes ++ new ∧
      new.map ModelChange.key = l.flatMap (k.expectedChange uid) := by
  induction h with
  | nil => exact ⟨[], by simp, rfl⟩
  | cons hs _ ih =>
    obtain ⟨new₁, h₁, k₁⟩ := hs.changes
    obtain ⟨new₂, h₂, k₂⟩ := ih
    exact ⟨new₁ ++ new₂, by rw [h₂, h₁, List.append_assoc], by simp [k₁, k₂]⟩

theorem SavedRelated.changes (h : SavedRelated uid ks r w r' w') (hks : ks.Nodup) :
    ∃ new, w'.changes = w.changes ++ new ∧
      new.map ModelChange.key = ks.flatMap fun k => (r.get k).flatMap (k.expectedChange uid) := by
  induction h with
  | nil => exact ⟨[], by simp, rfl⟩
  | @cons k ks r r' w w₁ w' l hk _ ih =>
    obtain ⟨hk', hks'⟩ := List.nodup_cons.1 hks
    obtain ⟨new₁, h₁, k₁⟩ := hk.changes
    obtain ⟨new₂, h₂, k₂⟩ := ih hks'
    refine ⟨new₁ ++ new₂, by rw [h₂, h₁, List.append_assoc], ?_⟩
    rw [List.map_append, k₁, k₂, List.flatMap_cons]
    congr 1
    exact List.flatMap_congr fun j hj => by
      rw [RelatedData.get_set_ne _ (ne_of_mem_of_not_mem hj hk')]

theorem Written.userChanges (hrow : (m.base.localID = 0 || m.base.dirty) = true)
    (h : Written userSpec w m m' w') :
    ∃ new, w'.changes = w.changes ++ new ∧ new.map ModelChange.key = userChange m := by
  cases h with
  | update hl _ hch =>
    have hd : m.base.dirty = true := by
      simp only [Bool.or_eq_true, decide_eq_true_eq] at hrow
      exact hrow.resolve_left hl
    refine ⟨_, hch, ?_⟩
    rw [userChange, if_neg hl, if_pos hd]
    rfl
  | insert hl _ _ hch =>
    exact ⟨_, hch, by simp [userChange, hl, ModelChange.key, TableName.modelName]⟩

/-- The records of a `SaveUser` call that returned `noError`: the user's first, then each
collection's in the order `SaveUser` saves them, each model's in collection order, each
record the one owed to its model. -/
theorem saveUser_changeRecords (model : User) (withRelatedData : Bool) (w : World) (m' : User)
    (w' : World) (h : (saveUser model withRelatedData).run w = .ok (noError, m') w') :
    ∃ new, w'.changes = w.changes ++ new ∧
      new.map ModelChange.key = userChange model ++
        if withRelatedData then relatedKinds.flatMap fun k =>
          (model.data.related.get k).flatMap (k.expectedChange model.base.id)
        else [] := by
  obtain ⟨_, _, hrow, hrel, hend⟩ := (wp_ok (saveUser_spec model withRelatedData w) h).1 rfl
  obtain ⟨new₁, h₁, k₁⟩ : ∃ new, _ = w.changes ++ new ∧
      new.map ModelChange.key = userChange model := by
    split_ifs at hrow with hc
    · exact hrow.userChanges hc
    · refine ⟨[], by simp [hrow.2.2], ?_⟩
      simp only [Bool.or_eq_true, decide_eq_true_eq, not_or, Bool.not_eq_true] at hc
      rw [userChange, if_neg hc.1, if_neg (by simp [hc.2])]
      rfl
  rw [hend.2.1]
  cases withRelatedData
  · obtain ⟨-, rfl⟩ := hrel
    exact ⟨new₁, h₁, by simp [k₁]⟩
  · obtain ⟨r, hsr, -⟩ := hrel
    obtain ⟨new₂, h₂, k₂⟩ := hsr.changes (by decide)
    exact ⟨new₁ ++ new₂, by rw [h₂, h₁, List.append_assoc], by simp [k₁, k₂]⟩

/-- A dirty stored user with a clean stored workspace: the call appends one record, the
user's `update`. -/
theorem saveUser_changeRecords_dirtyUser :
    let u : User := { base := { id := 1, localID := 5, dirty := true }, data := {
      email := "a", apiToken := "t",
      related := { workspaces := [{ base := { localID := 7, uid := 1 }, data := {} }] } } }
    ∃ m' w', (saveUser u true).run {} = .ok (noError, m') w' ∧
      ∃ new, w'.changes = [] ++ new ∧ new.map ModelChange.key = [("user", "update", 1)] := by
  intro u
  obtain ⟨m', w', h⟩ : ∃ m' w', (saveUser u true).run {} = .ok (noError, m') w' := ⟨_, _, rfl⟩
  obtain ⟨new, hn, hk⟩ := saveUser_changeRecords u true {} m' w' h
  exact ⟨m', w', h, new, hn, hk.trans (by decide)⟩

end Kopsik
