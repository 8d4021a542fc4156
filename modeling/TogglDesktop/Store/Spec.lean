import TogglDesktop.Store.Save

namespace Kopsik
set_option autoImplicit true

/-! What each save function does, said once: an inversion relation per function for the runs
that return `noError`, and one spec lemma per function in the `wp` calculus. Later proofs
take these apart with `cases` and never unfold a save function again. -/

/-- What the `try` block of a save function did when it returned `noError`. -/
inductive Written (s : SaveSpec t) (w : World) (model : Entity t.Data) :
    Entity t.Data → World → Prop
  | update (hl : model.base.localID ≠ 0)
      (htab : w'.tables =
        w.tables.set t ((w.tables.get t).update model.base.localID (s.updateRow model)))
      (hch : w'.changes = w.changes ++
        [⟨t.modelName, s.updateChange model, model.base.id, s.changeGUID model⟩]) :
      Written s w model model.clearDirty w'
  | insert (hl : model.base.localID = 0)
      (happ : (w.tables.get t).append (s.insertRow model) = some (r, tab'))
      (htab : w'.tables = w.tables.set t tab')
      (hch : w'.changes = w.changes ++
        [⟨t.modelName, "insert", model.base.id, s.changeGUID (model.setLocalID r)⟩]) :
      Written s w model (model.setLocalID r).clearDirty w'

theorem Written.congr {s : SaveSpec t} (ht : w₁.tables = w.tables) (hc : w₁.changes = w.changes)
    (h : Written s w₁ model model' w') : Written s w model model' w' := by
  cases h with
  | update hl htab hch => exact .update hl (ht ▸ htab) (hc ▸ hch)
  | insert hl happ htab hch => exact .insert hl (ht ▸ happ) (ht ▸ htab) (hc ▸ hch)

theorem writeModel_spec (s : SaveSpec t) (model : Entity t.Data) (w : World) :
    wp (writeModel s model)
      (fun r w' => w'.savepoint = w.savepoint ∧ (r.1 = noError → Written s w model r.2 w'))
      (fun _ w' => w'.savepoint = w.savepoint) w := by
  unfold writeModel
  rw [wp_ite]
  split_ifs with hl
  · simp only [wp_bind, wp_updateWhere, wp_lastError, wp_pushChange, wp_pure, wp_ite]
    split_ifs <;> simp_all
    exact .update hl rfl rfl
  · simp only [wp_bind, wp_insertInto]
    rcases happ : (w.tables.get t).append (s.insertRow model) with _ | ⟨r, tab'⟩
    · split_ifs <;> simp
    · split_ifs
      · simp
      · simp
      · simp [wp_selectLastInsertRowid]
        exact fun _ => .insert (not_not.1 hl) happ rfl rfl

/-- The model a save function writes: after `EnsureGUID`, when it calls it, with the UUID
drawn. -/
def SaveSpec.prepare (s : SaveSpec t) (model : Entity t.Data) (g : String) : Entity t.Data :=
  if s.ensuresGUID then model.ensureGUID g else model

section Prepare

variable (s : SaveSpec t) (m : Entity t.Data) (g : String)

@[simp] theorem SaveSpec.prepare_data : (s.prepare m g).data = m.data := by
  unfold SaveSpec.prepare; split <;> simp

@[simp] theorem SaveSpec.prepare_localID : (s.prepare m g).base.localID = m.base.localID := by
  unfold SaveSpec.prepare Entity.ensureGUID; split_ifs <;> rfl

@[simp] theorem SaveSpec.prepare_id : (s.prepare m g).base.id = m.base.id := by
  unfold SaveSpec.prepare Entity.ensureGUID; split_ifs <;> rfl

@[simp] theorem SaveSpec.prepare_uid : (s.prepare m g).base.uid = m.base.uid := by
  unfold SaveSpec.prepare Entity.ensureGUID; split_ifs <;> rfl

@[simp] theorem SaveSpec.prepare_deletedAt : (s.prepare m g).base.deletedAt = m.base.deletedAt := by
  unfold SaveSpec.prepare Entity.ensureGUID; split_ifs <;> rfl

@[simp] theorem SaveSpec.prepare_updatedAt : (s.prepare m g).base.updatedAt = m.base.updatedAt := by
  unfold SaveSpec.prepare Entity.ensureGUID; split_ifs <;> rfl

@[simp] theorem SaveSpec.prepare_marked :
    (s.prepare m g).base.isMarkedAsDeletedOnServer = m.base.isMarkedAsDeletedOnServer := by
  unfold SaveSpec.prepare Entity.ensureGUID; split_ifs <;> rfl

end Prepare

theorem ensureModelGUID_spec (model : Entity D) (w : World) :
    wp (ensureModelGUID model)
      (fun m w' => ∃ g, g ≠ "" ∧ m = model.ensureGUID g ∧ w'.tables = w.tables ∧
        w'.changes = w.changes ∧ w'.savepoint = w.savepoint)
      (fun _ _ => False) w := by
  unfold ensureModelGUID
  split_ifs with h
  · simp only [wp_bind, wp_generateGUID, wp_pure]
    exact ⟨_, (w.uuid _).2, rfl, by simp, by simp, by simp⟩
  · exact ⟨_, (w.uuid 0).2, by simp [Entity.ensureGUID, h], rfl, rfl, rfl⟩

/-- What a save function did when it returned `noError`: it returned at once, or wrote the
prepared model, whose GUID, when it had none, is a UUID. -/
inductive Saved (s : SaveSpec t) (w : World) (model : Entity t.Data) :
    Entity t.Data → World → Prop
  | skip (h : s.skips model = true) : Saved s w model model w
  | write (g : String) (hg : g ≠ "") (h : s.skips model = false)
      (hw : Written s w (s.prepare model g) model' w') : Saved s w model model' w'

/-- A save function never raises, keeps the transaction, and returns `noError` only as
`Saved` says. -/
theorem saveModel_spec (s : SaveSpec t) (model : Entity t.Data) (w : World) :
    wp (saveModel s model)
      (fun r w' => w'.savepoint = w.savepoint ∧ (r.1 = noError → Saved s w model r.2 w'))
      (fun _ _ => False) w := by
  unfold saveModel
  cases hs : s.skips model
  · have hwrite : ∀ g m₁ w₁, g ≠ "" → m₁ = s.prepare model g → w₁.tables = w.tables →
        w₁.changes = w.changes → w₁.savepoint = w.savepoint →
        wp (tryCatch (writeModel s m₁) fun exc => pure (exc.displayText, m₁))
          (fun r w' => w'.savepoint = w.savepoint ∧ (r.1 = noError → Saved s w model r.2 w'))
          (fun _ _ => False) w₁ := by
      rintro g m₁ w₁ hg rfl ht hc hsp
      rw [wp_tryCatch]
      refine wp_mono ?_ ?_ (writeModel_spec s _ w₁)
      · rintro r w' ⟨hsp', hw⟩
        exact ⟨hsp'.trans hsp, fun h => .write g hg hs ((hw h).congr ht hc)⟩
      · intro e w' hsp'
        exact ⟨hsp'.trans hsp, fun h => absurd h e.displayText_ne_noError⟩
    cases hg : s.ensuresGUID
    · simpa only [Bool.false_eq_true, ↓reduceIte, wp_bind, wp_pure]
        using hwrite _ model w (w.uuid 0).2 (by simp [SaveSpec.prepare, hg]) rfl rfl rfl
    · simp only [Bool.false_eq_true, ↓reduceIte, wp_bind]
      refine wp_mono ?_ (fun _ _ h => h) (ensureModelGUID_spec model w)
      rintro m₁ w₁ ⟨g, hg', rfl, ht, hc, hsp⟩
      exact hwrite g _ w₁ hg' (by simp [SaveSpec.prepare, hg]) ht hc hsp
  · exact ⟨rfl, fun _ => .skip hs⟩

/-- A run of a save loop that returned `noError`: each model in turn went through `step`. -/
inductive SavedAll (step : Entity D → World → Entity D → World → Prop) :
    List (Entity D) → World → List (Entity D) → World → Prop
  | nil : SavedAll step [] w [] w
  | cons (h : step m w m' w₁) (hs : SavedAll step l w₁ l' w') :
      SavedAll step (m :: l) w (m' :: l') w'

theorem SavedAll.mono (hR : ∀ m w m' w', R m w m' w' → R' m w m' w') :
    SavedAll R l w l' w' → SavedAll R' l w l' w'
  | .nil => .nil
  | .cons h hs => .cons (hR _ _ _ _ h) (hs.mono hR)

/-- The loop `saveList` keeps the transaction, never raises when `save` does not, and returns
`noError` only after every model went through `save`. -/
theorem saveList_spec (save : Entity D → DB (error × Entity D)) (uid : Poco.UInt64)
    (R : Entity D → World → Entity D → World → Prop)
    (hsave : ∀ m w, wp (save m)
      (fun r w' => w'.savepoint = w.savepoint ∧ (r.1 = noError → R m w r.2 w'))
      (fun _ _ => False) w) :
    ∀ l w, wp (saveList save uid l)
      (fun r w' => w'.savepoint = w.savepoint ∧
        (r.1 = noError → SavedAll (fun m => R (m.setUID uid)) l w r.2 w'))
      (fun _ _ => False) w
  | [], _ => ⟨rfl, fun _ => .nil⟩
  | m :: l, w => by
    simp only [saveList, wp_bind]
    refine wp_mono ?_ (fun _ _ h => h) (hsave _ w)
    rintro ⟨err, m'⟩ w₁ ⟨hsp₁, hm⟩
    by_cases he : err = noError
    · simp only [he, ne_eq, not_true_eq_false, ↓reduceIte, wp_bind]
      refine wp_mono ?_ (fun _ _ h => h) (saveList_spec save uid R hsave l w₁)
      rintro ⟨err', l'⟩ w' ⟨hsp', hl⟩
      exact ⟨hsp'.trans hsp₁, fun h => .cons (hm he) (hl h)⟩
    · simp only [he, ne_eq, not_false_eq_true, ↓reduceIte, wp_pure]
      exact ⟨hsp₁, False.elim⟩

theorem deleteFromTable_spec (t : TableName) (localID : Poco.Int64) (w : World) :
    wp (deleteFromTable t localID)
      (fun r w' => w'.savepoint = w.savepoint ∧ w'.changes = w.changes ∧
        (r = noError → localID ≠ 0 ∧ w'.tables = w.tables.set t ((w.tables.get t).delete localID)))
      (fun e _ => e = .assertion "local_id") w := by
  unfold deleteFromTable pocoAssert
  by_cases hl : localID = 0
  · simp [hl]
  · simp only [hl, ne_eq, not_false_eq_true, decide_True, ↓reduceIte, wp_bind, wp_pure,
      wp_tryCatch, wp_deleteWhere]
    split_ifs
    · simp [Exception.displayText_ne_noError]
    · simp [hl]

/-- One pass of a save loop over one model, as it went in a run that returned `noError`: a
model marked as deleted on the server lost its row (in the loops that have that branch), any
other got the user's ID and was saved. -/
inductive Step (s : SaveSpec t) (purges : Bool) (uid : Poco.UInt64) (m : Entity t.Data)
    (w : World) : Entity t.Data → World → Prop
  | delete (hp : purges = true) (hm : m.base.isMarkedAsDeletedOnServer = true)
      (hl : m.base.localID ≠ 0)
      (htab : w'.tables = w.tables.set t ((w.tables.get t).delete m.base.localID))
      (hch : w'.changes = w.changes ++ [⟨t.modelName, "delete", m.base.id, m.base.guid⟩]) :
      Step s purges uid m w m w'
  | save (hm : (purges && m.base.isMarkedAsDeletedOnServer) = false)
      (h : Saved s w (m.setUID uid) m' w') : Step s purges uid m w m' w'

theorem saveListDeleting_spec (s : SaveSpec t) (uid : Poco.UInt64) :
    ∀ l w, wp (saveListDeleting t (saveModel s) uid l)
      (fun r w' => w'.savepoint = w.savepoint ∧
        (r.1 = noError → SavedAll (Step s true uid) l w r.2 w'))
      (fun e _ => e = .assertion "local_id") w
  | [], _ => ⟨rfl, fun _ => .nil⟩
  | m :: l, w => by
    unfold saveListDeleting
    split_ifs with hm
    · simp only [wp_bind]
      refine wp_mono ?_ (fun _ _ h => h) (deleteFromTable_spec t _ w)
      rintro err w₁ ⟨hsp₁, hc₁, hd⟩
      by_cases he : err = noError
      · simp only [he, ne_eq, not_true_eq_false, ↓reduceIte, wp_bind, wp_pushChange]
        refine wp_mono ?_ (fun _ _ h => h) (saveListDeleting_spec s uid l _)
        rintro ⟨err', l'⟩ w' ⟨hsp', hl⟩
        refine ⟨hsp'.trans hsp₁, fun h => .cons ?_ (hl h)⟩
        exact .delete rfl hm (hd he).1 (hd he).2 (by simp [hc₁])
      · simp only [he, ne_eq, not_false_eq_true, ↓reduceIte, wp_pure]
        exact ⟨hsp₁, False.elim⟩
    · simp only [wp_bind]
      refine wp_mono ?_ (fun _ _ h => h.elim) (saveModel_spec s _ w)
      rintro ⟨err, m'⟩ w₁ ⟨hsp₁, hsv⟩
      by_cases he : err = noError
      · simp only [he, ne_eq, not_true_eq_false, ↓reduceIte, wp_bind]
        refine wp_mono ?_ (fun _ _ h => h) (saveListDeleting_spec s uid l w₁)
        rintro ⟨err', l'⟩ w' ⟨hsp', hl⟩
        exact ⟨hsp'.trans hsp₁, fun h => .cons (.save (by simpa using hm) (hsv he)) (hl h)⟩
      · simp only [he, ne_eq, not_false_eq_true, ↓reduceIte, wp_pure]
        exact ⟨hsp₁, False.elim⟩

/-- The loops with the deletion branch: `saveProjects` and `saveTimeEntries`. -/
def Kind.purges : Kind → Bool
  | .project | .timeEntry => true
  | _ => false

/-- The save function each kind's loop calls. -/
def Kind.spec : (k : Kind) → SaveSpec (.of k)
  | .workspace => workspaceSpec
  | .client => clientSpec
  | .project => projectSpec
  | .task => taskSpec
  | .tag => tagSpec
  | .timeEntry => timeEntrySpec

/-- What a collection is left as: the kinds that purge drop the models marked as deleted on
the server. -/
def Kind.purge (k : Kind) (l : List (Entity k.Data)) : List (Entity k.Data) :=
  if k.purges then l.filter (fun m => !m.base.isMarkedAsDeletedOnServer) else l

theorem saveKind_eq (uid : Poco.UInt64) (k : Kind) (l : List (Entity k.Data)) :
    saveKind uid k l = if k.purges then savePurging (.of k) (saveModel k.spec) uid l
      else (do pocoAssert (uid ≠ 0) "UID > 0"; saveList (saveModel k.spec) uid l) := by
  cases k <;> rfl

theorem saveKind_spec (uid : Poco.UInt64) (hu : uid ≠ 0) (k : Kind) (l : List (Entity k.Data))
    (w : World) :
    wp (saveKind uid k l)
      (fun r w' => w'.savepoint = w.savepoint ∧ (r.1 = noError →
        ∃ l₀, SavedAll (Step k.spec k.purges uid) l w l₀ w' ∧ r.2 = k.purge l₀))
      (fun e _ => e = .assertion "local_id") w := by
  rw [saveKind_eq]
  unfold Kind.purge
  cases hp : k.purges
  · simp only [Bool.false_eq_true, ↓reduceIte, pocoAssert, hu, ne_eq, not_false_eq_true,
      decide_True, wp_bind, wp_pure]
    refine wp_mono ?_ (fun _ _ h => h.elim) (saveList_spec _ uid _ (saveModel_spec k.spec) l w)
    rintro ⟨err, l'⟩ w' ⟨hsp, hl⟩
    exact ⟨hsp, fun h => ⟨l', (hl h).mono fun _ _ _ _ h => .save (by simp) h, rfl⟩⟩
  · simp only [↓reduceIte, savePurging, pocoAssert, hu, ne_eq, not_false_eq_true, decide_True,
      wp_bind, wp_pure]
    refine wp_mono ?_ (fun _ _ h => h) (saveListDeleting_spec k.spec uid l w)
    rintro ⟨err, l'⟩ w' ⟨hsp, hl⟩
    by_cases he : err = noError
    · simp only [he, ne_eq, not_true_eq_false, ↓reduceIte, wp_pure]
      exact ⟨hsp, fun _ => ⟨l', hp ▸ hl he, rfl⟩⟩
    · simp only [he, ne_eq, not_false_eq_true, ↓reduceIte, wp_pure]
      exact ⟨hsp, False.elim⟩

theorem wp_rollback_of {Q : PUnit → World → Prop} (hD : w.savepoint = some D)
    (hQ : ∀ w', w'.tables = D → w'.savepoint = none → Q () w') :
    wp rollback Q (fun _ _ => True) w := by
  rw [wp_rollback, hD]
  split_ifs
  exact hQ _ rfl rfl

/-- The collections `SaveUser` saved, kind after kind, in a run that returned `noError`. -/
inductive SavedRelated (uid : Poco.UInt64) :
    List Kind → RelatedData → World → RelatedData → World → Prop
  | nil : SavedRelated uid [] r w r w
  | cons {k : Kind} {ks : List Kind} {r r' : RelatedData} {w w₁ w' : World}
      {l : List (Entity k.Data)} (hk : SavedAll (Step k.spec k.purges uid) (r.get k) w l w₁)
      (hs : SavedRelated uid ks (r.set k (k.purge l)) w₁ r' w') :
      SavedRelated uid (k :: ks) r w r' w'

/-- `saveRelated` in a transaction opened on `D` returns `noError` only as `SavedRelated`
says, with the transaction still open, and an error only after rolling back to `D`. -/
theorem saveRelated_spec (uid : Poco.UInt64) (hu : uid ≠ 0) (D : Tables) :
    ∀ ks r w, w.savepoint = some D → wp (saveRelated uid ks r)
      (fun res w' => if res.1 = noError
        then w'.savepoint = w.savepoint ∧ SavedRelated uid ks r w res.2 w'
        else w'.tables = D ∧ w'.savepoint = none)
      (fun _ _ => True) w
  | [], _, _, _ => by simpa [saveRelated] using SavedRelated.nil
  | k :: ks, r, w, hD => by
    simp only [saveRelated, wp_bind]
    refine wp_mono ?_ (fun _ _ _ => trivial) (saveKind_spec uid hu k (r.get k) w)
    rintro ⟨err, l⟩ w₁ ⟨hsp₁, hk⟩
    by_cases he : err = noError
    · obtain ⟨l₀, hl₀, rfl⟩ := hk he
      simp only [he, ne_eq, not_true_eq_false, ↓reduceIte]
      refine wp_mono ?_ (fun _ _ _ => trivial) (saveRelated_spec uid hu D ks _ w₁ (hsp₁.trans hD))
      rintro ⟨err', r'⟩ w' h
      split_ifs at h ⊢
      · exact ⟨h.1.trans hsp₁, .cons hl₀ h.2⟩
      · exact h
    · simp only [he, ne_eq, not_false_eq_true, ↓reduceIte, wp_bind, wp_pure]
      exact wp_rollback_of (hsp₁.trans hD) fun w' ht hsp => by simp [he, ht, hsp]

/-- The user row part of `SaveUser` in a transaction opened on `D`: it returns `noError`
after writing the row of a new or dirty user and touching nothing otherwise, and an error only
after rolling back to `D`. -/
theorem saveUserRow_spec (model : User) (D : Tables) (w : World) (hD : w.savepoint = some D) :
    wp (saveUserRow model)
      (fun res w' => if res.1 = noError
        then w'.savepoint = w.savepoint ∧
          (if model.base.localID = 0 || model.base.dirty then Written userSpec w model res.2 w'
            else res.2 = model ∧ w' = w)
        else w'.tables = D ∧ w'.savepoint = none)
      (fun _ _ => True) w := by
  unfold saveUserRow
  split_ifs with hrow
  · have hcatch : ∀ (e : Exception) w₁, w₁.savepoint = some D →
        wp (do rollback; return (e.displayText, model))
          (fun res w' => if res.1 = noError
            then w'.savepoint = w.savepoint ∧ Written userSpec w model res.2 w'
            else w'.tables = D ∧ w'.savepoint = none)
          (fun _ _ => True) w₁ := fun e w₁ h₁ => by
      rw [wp_bind]
      exact wp_rollback_of h₁ fun w' ht hsp => by simp [e.displayText_ne_noError, ht, hsp]
    simp only [hrow, ↓reduceIte]
    rw [wp_tryCatch, wp_bind]
    refine wp_mono ?_ (fun e w₁ h₁ => hcatch e w₁ (h₁.trans hD)) (writeModel_spec userSpec model w)
    rintro ⟨err, m₁⟩ w₁ ⟨hsp₁, hw⟩
    by_cases he : err = noError
    · simp only [he, ne_eq, not_true_eq_false, ↓reduceIte, wp_pure]
      exact ⟨hsp₁, hw he⟩
    · simp only [he, ne_eq, not_false_eq_true, ↓reduceIte, wp_bind, wp_pure]
      rw [wp_rollback]
      split_ifs
      · exact hcatch _ _ (hsp₁.trans hD)
      · rw [hsp₁, hD]
        simp [he]
  · simp [hrow, noError]

/-- The `with_related_data` part of `SaveUser` in a transaction opened on `D`. -/
theorem saveUserRelated_spec (b : Bool) (model : User) (hu : model.base.id ≠ 0) (D : Tables)
    (w : World) (hD : w.savepoint = some D) :
    wp (saveUserRelated b model)
      (fun res w' => if res.1 = noError
        then w'.savepoint = w.savepoint ∧
          (if b then ∃ r, SavedRelated model.base.id relatedKinds model.data.related w r w' ∧
              res.2 = { model with data := { model.data with related := r } }
            else res.2 = model ∧ w' = w)
        else w'.tables = D ∧ w'.savepoint = none)
      (fun _ _ => True) w := by
  unfold saveUserRelated
  cases b
  · simp [noError]
  · simp only [↓reduceIte, wp_bind, wp_pure]
    refine wp_mono ?_ (fun _ _ _ => trivial)
      (saveRelated_spec _ hu D relatedKinds model.data.related w hD)
    rintro ⟨err, r⟩ w' h
    rw [wp_pure]
    split_ifs at h ⊢
    · exact ⟨h.1, r, h.2, rfl⟩
    · exact h

/-- A `SaveUser` run that returned `noError`: the user passed the checks, no transaction was
open, the user row was written when the user was new or dirty, the collections were saved
when asked for, and the transaction was committed. -/
inductive SavedUser (w : World) (model : User) (withRelatedData : Bool) : User → World → Prop
  | mk {m₁ m' : User} {w₁ w₂ w' : World}
      (hvalid : model.data.email ≠ "" ∧ model.data.apiToken ≠ "" ∧ model.base.id ≠ 0)
      (hopen : w.savepoint = none)
      (hrow : if model.base.localID = 0 || model.base.dirty then Written userSpec w model m₁ w₁
        else m₁ = model ∧ w₁.tables = w.tables ∧ w₁.changes = w.changes)
      (hrel : if withRelatedData then ∃ r,
          SavedRelated model.base.id relatedKinds model.data.related w₁ r w₂ ∧
          m' = { m₁ with data := { m₁.data with related := r } }
        else m' = m₁ ∧ w₂ = w₁)
      (hend : w'.tables = w₂.tables ∧ w'.changes = w₂.changes ∧ w'.savepoint = none) :
      SavedUser w model withRelatedData m' w'

theorem Written.base_id {s : SaveSpec t} (h : Written s w m m' w') : m'.base.id = m.base.id := by
  cases h <;> rfl

theorem Written.data_eq {s : SaveSpec t} (h : Written s w m m' w') : m'.data = m.data := by
  cases h <;> rfl

/-- `SaveUser` returns `noError` only as `SavedUser` says, and any error with the tables and
the transaction as they were. -/
theorem saveUser_spec (model : User) (withRelatedData : Bool) (w : World) :
    wp (saveUser model withRelatedData)
      (fun r w' => (r.1 = noError → SavedUser w model withRelatedData r.2 w') ∧
        (r.1 ≠ noError → w'.tables = w.tables ∧ w'.savepoint = w.savepoint))
      (fun _ _ => True) w := by
  unfold saveUser
  by_cases he : model.data.email = ""
  · rw [if_pos he]
    exact ⟨fun h => absurd h (by simp [noError]), fun _ => ⟨rfl, rfl⟩⟩
  rw [if_neg he]
  by_cases ha : model.data.apiToken = ""
  · rw [if_pos ha]
    exact ⟨fun h => absurd h (by simp [noError]), fun _ => ⟨rfl, rfl⟩⟩
  rw [if_neg ha]
  by_cases hi : model.base.id = 0
  · rw [if_pos hi]
    exact ⟨fun h => absurd h (by simp [noError]), fun _ => ⟨rfl, rfl⟩⟩
  rw [if_neg hi, wp_bind, wp_begin]
  split_ifs
  rcases hopen : w.savepoint with _ | D
  · simp only [wp_bind]
    refine wp_mono ?_ (fun _ _ _ => trivial) (saveUserRow_spec model w.tables _ rfl)
    rintro ⟨err, m₁⟩ w₁ h₁
    by_cases he₁ : err = noError
    · simp only [he₁, ↓reduceIte] at h₁
      obtain ⟨hsp₁, hrow⟩ := h₁
      have hm₁ : m₁.base.id = model.base.id ∧ m₁.data = model.data := by
        split_ifs at hrow
        · exact ⟨hrow.base_id, hrow.data_eq⟩
        · exact ⟨by rw [hrow.1], by rw [hrow.1]⟩
      simp only [he₁, ne_eq, not_true_eq_false, ↓reduceIte, wp_bind]
      refine wp_mono ?_ (fun _ _ _ => trivial)
        (saveUserRelated_spec withRelatedData m₁ (hm₁.1 ▸ hi) w.tables w₁ hsp₁)
      rintro ⟨err₂, m'⟩ w₂ h₂
      by_cases he₂ : err₂ = noError
      · simp only [he₂, ↓reduceIte] at h₂
        simp only [he₂, ne_eq, not_true_eq_false, ↓reduceIte, wp_bind, wp_commit, wp_pure,
          h₂.1.trans hsp₁]
        split_ifs
        refine ⟨fun _ => @SavedUser.mk _ _ _ m₁ m' w₁ w₂ _ ⟨he, ha, hi⟩ hopen ?_ ?_ ⟨rfl, rfl, rfl⟩,
          False.elim⟩
        · split_ifs at hrow ⊢
          · exact hrow.congr (by rfl) (by rfl)
          · exact ⟨hrow.1, by rw [hrow.2]; rfl, by rw [hrow.2]; rfl⟩
        · rw [← hm₁.1, ← hm₁.2]
          exact h₂.2
      · simp only [he₂, ↓reduceIte] at h₂
        simp only [he₂, ne_eq, not_false_eq_true, ↓reduceIte, wp_pure]
        exact ⟨False.elim, fun _ => h₂⟩
    · simp only [he₁, ↓reduceIte] at h₁
      simp only [he₁, ne_eq, not_false_eq_true, ↓reduceIte, wp_pure]
      exact ⟨False.elim, fun _ => h₁⟩
  · trivial

end Kopsik
