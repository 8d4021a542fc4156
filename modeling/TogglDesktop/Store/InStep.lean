import TogglDesktop.Store.RoundTrip

namespace Kopsik
set_option autoImplicit true

/-! Memory and store in step. A run of the application edits the user's entities with the
compare-and-mark-dirty setters, appends new entities to the collections, and calls `SaveUser`
with related data. Along every such run from an empty store, each entity that has a
`local_id` has a row under it, and the row of a clean entity is one the entity's update
statement leaves as it is; each `SaveUser` that returns `noError` leaves every entity of the
collections stored and clean. -/

/-! ### Edits -/

/-- What a compare-and-mark-dirty setter does to an entity: nothing, or a change that keeps
the `local_id` and leaves the entity dirty. -/
def Entity.Edit (e e' : Entity D) : Prop :=
  e' = e ∨ (e'.base.localID = e.base.localID ∧ e'.base.dirty = true)

namespace Entity

theorem Edit.refl (e : Entity D) : Edit e e := .inl rfl

theorem Edit.trans (h₁ : Edit a b) (h₂ : Edit b c) : Edit a c := by
  rcases h₂ with rfl | ⟨hl₂, hd₂⟩
  · exact h₁
  · rcases h₁ with rfl | ⟨hl₁, -⟩
    · exact .inr ⟨hl₂, hd₂⟩
    · exact .inr ⟨hl₂.trans hl₁, hd₂⟩

theorem Edit.localID (h : Edit e e') : e'.base.localID = e.base.localID := by
  rcases h with rfl | ⟨h, -⟩
  · rfl
  · exact h

theorem setField_edit [DecidableEq α] {get : Entity D → α} {put : Entity D → α → Entity D}
    (hput : (put e v).base.localID = e.base.localID) : Edit e (setField get put e v) := by
  by_cases h : get e = v
  · exact .inl (setField_of_eq h)
  · exact .inr ⟨by simp [setField_of_ne h, hput], by simp [setField_of_ne h]⟩

theorem setDataField_edit [DecidableEq α] (get : D → α) (put : D → α → D) (e : Entity D)
    (v : α) : Edit e (setDataField get put e v) :=
  setField_edit rfl

theorem setUID_eq_of_clean {e : Entity D} {v : Poco.UInt64} (h : (e.setUID v).base.dirty = false) :
    e.setUID v = e := by
  by_cases hu : e.base.uid = v
  · exact setField_of_eq hu
  · rw [setUID_base] at h
    simp [hu] at h

end Entity

namespace TimeEntry

open Entity

theorem setTags_edit (te : TimeEntry) (tags : String) : Edit te (te.setTags tags) := by
  by_cases h : te.tags = tags
  · exact .inl (by simp [setTags, h])
  · exact .inr ⟨by simp [setTags_base, h], by simp [setTags_base, h]⟩

theorem setStopString_edit (P : String → Poco.Int64) (te : TimeEntry) (s : String) :
    Edit te (te.setStopString P s) := by
  unfold setStopString
  refine Edit.trans ?_ (setDataField_edit _ _ _ _)
  split_ifs
  · exact setDataField_edit _ _ _ _
  · exact .refl _

theorem setStartString_edit (P : String → Poco.Int64) (te : TimeEntry) (s : String) :
    Edit te (te.setStartString P s) := by
  unfold setStartString
  refine Edit.trans ?_ (setDataField_edit _ _ _ _)
  split_ifs
  · exact setDataField_edit _ _ _ _
  · exact setDataField_edit _ _ _ _

theorem setDurationString_edit (PDS : String → BitVec 32) (now : Poco.Int64) (te : TimeEntry)
    (s : String) : Edit te (te.setDurationString PDS now s) := by
  unfold setDurationString
  split_ifs <;> exact (setDataField_edit _ _ _ _).trans (setDataField_edit _ _ _ _)

theorem stopAt_ok {te te' : TimeEntry} (h : te.stopAt now at_ = .ok te') :
    te' = ((te.setDurationInSeconds (at_ + te.data.durationInSeconds)).setStop at_).setUIModifiedAt
      now := by
  unfold stopAt at h
  by_cases h0 : at_ = 0
  · rw [if_pos h0] at h
    cases h
  rw [if_neg h0] at h
  by_cases hd : 0 < (te.setDurationInSeconds (at_ + te.data.durationInSeconds)).data.durationInSeconds.toInt
  · rw [if_neg (not_not.2 hd)] at h
    cases h
    rfl
  · rw [if_pos hd] at h
    cases h

theorem stopAt_edit {te te' : TimeEntry} (h : te.stopAt now at_ = .ok te') : Edit te te' := by
  rw [stopAt_ok h]
  exact ((setDataField_edit _ _ _ _).trans (setDataField_edit _ _ _ _)).trans
    (setDataField_edit _ _ _ _)

end TimeEntry

/-- A call of a compare-and-mark-dirty setter: one every kind has, one of a kind's own fields
(`SetDescription`, `SetBillable`, `SetWID` and the rest), or a `TimeEntry` setter with a body of
its own: `SetTags`, the three string setters, and `StopAt` when its assertions hold. -/
inductive SetterCall : {D : Type} → Entity D → Entity D → Prop
  | setID (e : Entity D) (v : Poco.UInt64) : SetterCall e (e.setID v)
  | setGUID (e : Entity D) (v : String) : SetterCall e (e.setGUID v)
  | setUID (e : Entity D) (v : Poco.UInt64) : SetterCall e (e.setUID v)
  | setDeletedAt (e : Entity D) (v : Poco.UInt64) : SetterCall e (e.setDeletedAt v)
  | setUpdatedAt (e : Entity D) (v : Poco.UInt64) : SetterCall e (e.setUpdatedAt v)
  | setDataField {α : Type} [DecidableEq α] (get : D → α) (put : D → α → D) (e : Entity D)
      (v : α) : SetterCall e (Entity.setDataField get put e v)
  | setTags (te : TimeEntry) (s : String) : SetterCall te (te.setTags s)
  | setStopString (P : String → Poco.Int64) (te : TimeEntry) (s : String) :
      SetterCall te (te.setStopString P s)
  | setStartString (P : String → Poco.Int64) (te : TimeEntry) (s : String) :
      SetterCall te (te.setStartString P s)
  | setDurationString (PDS : String → BitVec 32) (now : Poco.Int64) (te : TimeEntry)
      (s : String) : SetterCall te (te.setDurationString PDS now s)
  | stopAt {te te' : TimeEntry} (h : te.stopAt now at_ = .ok te') : SetterCall te te'

/-- Every setter call is an edit. -/
theorem SetterCall.edit (h : SetterCall e e') : Entity.Edit e e' := by
  cases h with
  | setID | setGUID | setUID | setDeletedAt | setUpdatedAt => exact Entity.setField_edit rfl
  | setDataField => exact Entity.setDataField_edit _ _ _ _
  | setTags te s => exact te.setTags_edit s
  | setStopString P te s => exact te.setStopString_edit P s
  | setStartString P te s => exact te.setStartString_edit P s
  | setDurationString PDS now te s => exact te.setDurationString_edit PDS now s
  | stopAt h => exact TimeEntry.stopAt_edit h

/-! ### What the save functions' statements satisfy -/

/-- What the invariant needs of a save function's statements: its update statement run twice
writes what it wrote once, run on the row its insert statement wrote leaves it, and reads
neither the dirty flag nor the `local_id`. -/
structure SaveSpec.Lawful (s : SaveSpec t) : Prop where
  updateRow_idem : ∀ e row, s.updateRow e (s.updateRow e row) = s.updateRow e row
  updateRow_insertRow : ∀ e, s.updateRow e (s.insertRow e) = s.insertRow e
  updateRow_clearDirty : ∀ e, s.updateRow e.clearDirty = s.updateRow e
  updateRow_setLocalID : ∀ e r, s.updateRow (e.setLocalID r) = s.updateRow e

theorem Kind.spec_lawful (k : Kind) : k.spec.Lawful := by
  cases k <;> refine ⟨fun e row => ?_, fun e => ?_, fun _ => rfl, fun _ _ => rfl⟩ <;>
    simp only [Kind.spec, workspaceSpec, clientSpec, projectSpec, taskSpec, tagSpec,
      timeEntrySpec] <;> split_ifs <;> simp_all [clientRow, projectRow, tagRow, timeEntryRow,
      guidColumn, idColumn]

theorem userSpec_lawful : userSpec.Lawful :=
  ⟨fun _ _ => rfl, fun _ => rfl, fun _ => rfl, fun _ _ => rfl⟩

/-! ### The invariant -/

/-- An entity in step with its table: once it has a `local_id`, the table has a row under it
(one at most, the `local_id` being the primary key), and while the entity is clean, that row
is one the entity's update statement leaves as it is. -/
def InTable (s : SaveSpec t) (tab : Table t.Row) (e : Entity t.Data) : Prop :=
  e.base.localID ≠ 0 → ∃ row, tab.find e.base.localID = some row ∧
    (e.base.dirty = false → s.updateRow e row = row)

/-- Two entities of one collection share no `local_id` but 0. -/
def Apart (a b : Entity D) : Prop := a.base.localID = b.base.localID → a.base.localID = 0

theorem Apart.symm (h : Apart a b) : Apart b a := fun hab => hab.trans (h hab.symm)

/-- A collection in step with its table. -/
structure InStepWith (s : SaveSpec t) (l : List (Entity t.Data)) (tab : Table t.Row) : Prop where
  inTable : ∀ e ∈ l, InTable s tab e
  apart : l.Pairwise Apart

/-- A user and its collections in step with the store. -/
structure InStep (G : User) (T : Tables) : Prop where
  user : InTable userSpec (T.get .users) G
  related : ∀ k, InStepWith k.spec (G.data.related.get k) (T.get (.of k))

section Invariant

variable {t : TableName} {s : SaveSpec t} {tab tab' : Table t.Row} {e e' : Entity t.Data}
  {l l' rest : List (Entity t.Data)}

theorem InTable.mem_keys (h : InTable s tab e) (hl : e.base.localID ≠ 0) :
    e.base.localID ∈ tab.rows.map Prod.fst := by
  obtain ⟨_, hrow, -⟩ := h hl
  exact Table.find_eq_some_mem hrow

theorem InTable.congr (h : InTable s tab e)
    (hf : e.base.localID ≠ 0 → tab'.find e.base.localID = tab.find e.base.localID) :
    InTable s tab' e := fun hl => by
  rw [hf hl]
  exact h hl

theorem InTable.edit (h : InTable s tab e) (he : Entity.Edit e e') : InTable s tab e' := by
  rcases he with rfl | ⟨hl, hd⟩
  · exact h
  · intro hl'
    obtain ⟨row, hrow, -⟩ := h (hl ▸ hl')
    exact ⟨row, hl ▸ hrow, fun h => absurd (hd.symm.trans h) Bool.noConfusion⟩

theorem InStepWith.congr_find (h : InStepWith s l tab)
    (hf : ∀ e ∈ l, e.base.localID ≠ 0 → tab'.find e.base.localID = tab.find e.base.localID) :
    InStepWith s l tab' :=
  ⟨fun e he => (h.inTable e he).congr (hf e he), h.apart⟩

theorem InStepWith.sublist (h : InStepWith s l tab) (hs : l'.Sublist l) : InStepWith s l' tab :=
  ⟨fun e he => h.inTable e (hs.subset he), h.apart.sublist hs⟩

theorem InStepWith.perm (h : InStepWith s l tab) (hp : l.Perm l') : InStepWith s l' tab :=
  ⟨fun e he => h.inTable e (hp.mem_iff.2 he), (hp.pairwise_iff Apart.symm).1 h.apart⟩

theorem forall₂_edit_localID {l l' : List (Entity D)} (h : List.Forall₂ Entity.Edit l l') :
    l'.map (·.base.localID) = l.map (·.base.localID) := by
  induction h with
  | nil => rfl
  | cons he _ ih => simp [ih, he.localID]

theorem InStepWith.edit (h : InStepWith s l tab) (he : List.Forall₂ Entity.Edit l l') :
    InStepWith s l' tab := by
  refine ⟨fun e' he' => ?_, ?_⟩
  · obtain ⟨e, hel, hee⟩ := forall₂_mem_right he he'
    exact (h.inTable e hel).edit hee
  · have hmap : (l.map (·.base.localID)).Pairwise (fun a b => a = b → a = 0) :=
      List.pairwise_map.2 h.apart
    rw [← forall₂_edit_localID he] at hmap
    have h' := List.pairwise_map.1
      (show (l'.map (·.base.localID)).Pairwise (fun a b => a = b → a = 0) from hmap)
    exact h'

theorem forall₂_edit_map {l : List (Entity D)} {f : Entity D → Entity D}
    (hf : ∀ e ∈ l, Entity.Edit e (f e)) : List.Forall₂ Entity.Edit l (l.map f) :=
  List.forall₂_map_right_iff.2 (List.forall₂_same.2 hf)

theorem forall₂_edit_set {e' : Entity D} :
    ∀ {l : List (Entity D)} {i : Nat}, (∀ hi : i < l.length, Entity.Edit l[i] e') →
      List.Forall₂ Entity.Edit l (l.set i e')
  | [], _, _ => .nil
  | _ :: _, 0, h => .cons (h (Nat.zero_lt_succ _)) (List.forall₂_same.2 fun e _ => .refl e)
  | e :: _, _ + 1, h => .cons (.refl e) (forall₂_edit_set fun hi => h (Nat.succ_lt_succ hi))

theorem InStepWith.append_new (h : InStepWith s l tab) (he : e.base.localID = 0) :
    InStepWith s (l ++ [e]) tab := by
  refine ⟨fun x hx => ?_, List.pairwise_append.2 ⟨h.apart, List.pairwise_singleton _ _,
    fun x _ y hy hxy => ?_⟩⟩
  · rcases List.mem_append.1 hx with hx | hx
    · exact h.inTable x hx
    · rw [List.mem_singleton.1 hx]
      exact fun hl => absurd he hl
  · rw [List.mem_singleton.1 hy] at hxy
    rw [hxy, he]

end Invariant

/-! ### One model written, one pass of a loop, a loop, the collections -/

section Written

variable {t : TableName} {s : SaveSpec t} {w w' : World} {p p' : Entity t.Data}
  {rest : List (Entity t.Data)}

theorem Written.stored (h : Written s w p p' w') :
    p'.base.localID ≠ 0 ∧ p'.base.dirty = false := by
  cases h with
  | update hl => exact ⟨hl, rfl⟩
  | @insert r _ _ _ happ =>
    obtain ⟨-, hpos, -⟩ := Table.append_some happ
    have hr : r ≠ 0 := fun h => by simp [h] at hpos
    exact ⟨hr, rfl⟩

theorem Written.get_ne (h : Written s w p p' w') {t' : TableName} (ht : t' ≠ t) :
    w'.tables.get t' = w.tables.get t' := by
  cases h with
  | update _ htab => rw [htab, Tables.get_set_ne _ ht]
  | insert _ _ htab => rw [htab, Tables.get_set_ne _ ht]

theorem Written.inStepWith (hs : s.Lawful) (h : Written s w p p' w')
    (hrest : InStepWith s rest (w.tables.get t))
    (hp : p.base.localID ≠ 0 → ∃ row, (w.tables.get t).find p.base.localID = some row)
    (hapart : ∀ e ∈ rest, Apart e p) :
    InStepWith s (rest ++ [p']) (w'.tables.get t) := by
  cases h with
  | update hl htab =>
    obtain ⟨row, hrow⟩ := hp hl
    rw [htab, Tables.get_set]
    refine ⟨fun e he => ?_, List.pairwise_append.2 ⟨hrest.apart, List.pairwise_singleton _ _,
      fun e he b hb => by rw [List.mem_singleton.1 hb]; exact hapart e he⟩⟩
    rcases List.mem_append.1 he with he | he
    · exact (hrest.inTable e he).congr fun hl' => by
        rw [Table.find_update, if_neg fun h => hl' (hapart e he h)]
    · rw [List.mem_singleton.1 he]
      refine fun _ => ⟨s.updateRow p row, ?_, fun _ => ?_⟩
      · show ((w.tables.get t).update p.base.localID (s.updateRow p)).find p.base.localID = _
        rw [Table.find_update, if_pos rfl, hrow]
        rfl
      · rw [hs.updateRow_clearDirty, hs.updateRow_idem]
  | @insert r tab' _ hl happ htab =>
    obtain ⟨hr, -, -⟩ := Table.append_some happ
    have hne : ∀ e ∈ rest, e.base.localID ≠ 0 → e.base.localID ≠ r := fun e he hl' h =>
      hr (h ▸ (hrest.inTable e he).mem_keys hl')
    rw [htab, Tables.get_set]
    refine ⟨fun e he => ?_, List.pairwise_append.2 ⟨hrest.apart, List.pairwise_singleton _ _,
      fun e he b hb hq => ?_⟩⟩
    · rcases List.mem_append.1 he with he | he
      · exact (hrest.inTable e he).congr fun hl' => by
          rw [Table.find_append happ, if_neg (hne e he hl')]
      · rw [List.mem_singleton.1 he]
        refine fun _ => ⟨s.insertRow p, ?_, fun _ => ?_⟩
        · show tab'.find r = _
          rw [Table.find_append happ, if_pos rfl]
        · rw [hs.updateRow_clearDirty, hs.updateRow_setLocalID, hs.updateRow_insertRow]
    · rw [List.mem_singleton.1 hb] at hq
      exact by_contra fun h0 => hne e he h0 hq

end Written

section Loop

variable {k : Kind} {uid : Poco.UInt64} {w w' : World} {m m' : Entity k.Data}
  {l l₀ rest done : List (Entity k.Data)}

theorem Step.get_ne (h : Step k.spec k.purges uid m w m' w') (ht : t ≠ .of k) :
    w'.tables.get t = w.tables.get t := by
  cases h with
  | delete _ _ _ htab => rw [htab, Tables.get_set_ne _ ht]
  | save _ hs =>
    cases hs with
    | skip => rfl
    | write _ _ _ hw => exact hw.get_ne ht

theorem Step.stored (h : Step k.spec k.purges uid m w m' w') (hk : k.kept m' = true) :
    m'.base.localID ≠ 0 ∧ m'.base.dirty = false := by
  cases h with
  | delete hp hm => simp [Kind.kept, hp, hm] at hk
  | save _ hs =>
    cases hs with
    | skip hsk =>
      rw [Kind.spec_skips] at hsk
      simpa [cleanAndStored] using hsk
    | write _ _ _ hw => exact hw.stored

theorem Step.inStepWith (h : Step k.spec k.purges uid m w m' w')
    (hi : InStepWith k.spec (m :: rest) (w.tables.get (.of k))) :
    InStepWith k.spec (rest ++ k.purge [m']) (w'.tables.get (.of k)) := by
  have hrest := hi.sublist (List.sublist_cons_self m rest)
  have hm : ∀ e ∈ rest, Apart m e := (List.pairwise_cons.1 hi.apart).1
  have hkept : k.kept m' = true → k.purge [m'] = [m'] := fun hk => by
    rw [Kind.purge_singleton, if_pos hk]
  cases h with
  | delete hp hmk hl htab =>
    rw [Kind.purge_singleton, if_neg (by simp [Kind.kept, hp, hmk]), List.append_nil, htab,
      Tables.get_set]
    exact hrest.congr_find fun e he hl' => by
      rw [Table.find_delete, if_neg fun h => hl (hm e he h.symm)]
  | save hmk hs =>
    rw [hkept (by rw [Kind.kept, (Step.save hmk hs).savedFrom.2.2, hmk]; rfl)]
    cases hs with
    | skip hsk =>
      rw [Kind.spec_skips] at hsk
      have hclean : ¬m.base.localID = 0 ∧ (m.setUID uid).base.dirty = false := by
        simpa [cleanAndStored] using hsk
      rw [Entity.setUID_eq_of_clean hclean.2]
      exact hi.perm (List.perm_append_singleton m rest).symm
    | write g _ _ hw =>
      refine hw.inStepWith (k.spec_lawful) hrest (fun hl => ?_) fun e he => ?_
      · obtain ⟨row, hrow, -⟩ := hi.inTable m (List.mem_cons_self _ _) (by simpa using hl)
        exact ⟨row, by simpa using hrow⟩
      · intro h
        simpa using (hm e he).symm (by simpa using h)

theorem SavedAll.inStepWith (h : SavedAll (Step k.spec k.purges uid) l w l₀ w')
    (hi : InStepWith k.spec (l ++ done) (w.tables.get (.of k))) :
    InStepWith k.spec (done ++ k.purge l₀) (w'.tables.get (.of k)) := by
  induction h generalizing done with
  | nil => simpa [Kind.purge] using hi
  | @cons m _ m' _ _ _ _ hs _ ih =>
    rw [Kind.purge_cons, ← List.append_assoc]
    exact ih (by simpa using hs.inStepWith hi)

theorem SavedAll.get_ne (h : SavedAll (Step k.spec k.purges uid) l w l₀ w')
    (ht : t ≠ .of k) : w'.tables.get t = w.tables.get t := by
  induction h with
  | nil => rfl
  | cons hs _ ih => rw [ih, hs.get_ne ht]

theorem SavedAll.stored (h : SavedAll (Step k.spec k.purges uid) l w l₀ w') :
    ∀ e ∈ k.purge l₀, e.base.localID ≠ 0 ∧ e.base.dirty = false := by
  induction h with
  | nil => simp [Kind.purge]
  | @cons m _ m' _ _ _ _ hs _ ih =>
    intro e he
    rw [Kind.purge_cons, List.mem_append, Kind.purge_singleton] at he
    rcases he with he | he
    · split_ifs at he with hk
      · rw [List.mem_singleton.1 he]
        exact hs.stored hk
      · simp at he
    · exact ih e he

end Loop

/-- The collections' loops leave every collection in step, and the user's table as it was. -/
theorem SavedRelated.inStepWith (h : SavedRelated uid ks r w r' w')
    (hi : ∀ k, InStepWith k.spec (r.get k) (w.tables.get (.of k))) :
    (∀ k, InStepWith k.spec (r'.get k) (w'.tables.get (.of k))) ∧
      w'.tables.get .users = w.tables.get .users := by
  induction h with
  | nil => exact ⟨hi, rfl⟩
  | @cons k _ r _ _ _ _ _ hk _ ih =>
    refine (ih fun j => ?_).imp id fun h => h.trans (hk.get_ne TableName.noConfusion)
    by_cases hj : j = k
    · subst hj
      rw [RelatedData.get_set]
      simpa using hk.inStepWith (by simpa using hi j : InStepWith j.spec (r.get j ++ []) _)
    · rw [RelatedData.get_set_ne _ hj, hk.get_ne fun h => hj (TableName.of.inj h)]
      exact hi j

theorem Kind.mem_relatedKinds (k : Kind) : k ∈ relatedKinds := by
  cases k <;> decide

theorem SavedRelated.stored (h : SavedRelated uid ks r w r' w')
    (hr : ∀ k, k ∉ ks → ∀ e ∈ r.get k, e.base.localID ≠ 0 ∧ e.base.dirty = false) :
    ∀ k, ∀ e ∈ r'.get k, e.base.localID ≠ 0 ∧ e.base.dirty = false := by
  induction h with
  | nil => exact fun k => hr k (List.not_mem_nil k)
  | @cons k _ r _ _ _ _ _ hk _ ih =>
    refine ih fun j hj e he => ?_
    by_cases hjk : j = k
    · subst hjk
      rw [RelatedData.get_set] at he
      exact hk.stored e he
    · rw [RelatedData.get_set_ne _ hjk] at he
      exact hr j (by simp [hjk, hj]) e he

/-! ### `SaveUser` -/

/-- A `SaveUser` call with related data that returned `noError` keeps the user and its
collections in step. -/
theorem SavedUser.inStep (h : SavedUser w G true G' w') (hi : InStep G w.tables) :
    InStep G' w'.tables := by
  obtain @⟨m₁, _, w₁, w₂, _, -, -, hrow, hrel, hend⟩ := h
  have h₁ : InTable userSpec (w₁.tables.get .users) m₁ ∧ m₁.data = G.data ∧
      ∀ k : Kind, w₁.tables.get (.of k) = w.tables.get (.of k) := by
    split_ifs at hrow
    · refine ⟨?_, hrow.data_eq, fun k => hrow.get_ne TableName.noConfusion⟩
      have := hrow.inStepWith userSpec_lawful (⟨by simp, by simp⟩ : InStepWith userSpec [] _)
        (fun hl => (hi.user hl).imp fun _ h => h.1) (by simp)
      exact this.inTable m₁ (by simp)
    · obtain ⟨rfl, ht, -⟩ := hrow
      exact ⟨by rw [ht]; exact hi.user, rfl, fun k => by rw [ht]⟩
  obtain ⟨r, hsr, rfl⟩ := hrel
  obtain ⟨hrk, hu⟩ := hsr.inStepWith fun k => by rw [h₁.2.2 k]; exact hi.related k
  rw [hend.1]
  exact ⟨by rw [hu]; exact h₁.1, hrk⟩

/-- After a `SaveUser` call with related data that returned `noError`, every entity of the
user's collections is stored and clean. -/
theorem saveUser_stored (h : (saveUser G true).run w = .ok (noError, G') w') :
    ∀ k, ∀ e ∈ G'.data.related.get k, e.base.localID ≠ 0 ∧ e.base.dirty = false := by
  obtain ⟨-, -, -, hrel, -⟩ := (wp_ok (saveUser_spec G true w) h).1 rfl
  obtain ⟨r, hsr, rfl⟩ := hrel
  exact hsr.stored fun k hk => absurd k.mem_relatedKinds hk

/-! ### Runs -/

/-- `user->related` with one collection replaced. -/
def User.setRelated (G : User) (k : Kind) (l : List (Entity k.Data)) : User :=
  { G with data := { G.data with related := G.data.related.set k l } }

/-- One step of a run of the application: setter calls on entities of one collection, a
setter call on the user, a new entity appended to a collection, or a `SaveUser` call with
related data that returned `noError`. -/
inductive UserStep : User × World → User × World → Prop
  | edit (k : Kind) (l : List (Entity k.Data))
      (h : List.Forall₂ Entity.Edit (G.data.related.get k) l) :
      UserStep (G, w) (G.setRelated k l, w)
  | editUser (G' : User) (h : Entity.Edit G G') (hr : G'.data.related = G.data.related) :
      UserStep (G, w) (G', w)
  | append (k : Kind) (e : Entity k.Data) (he : e.base.localID = 0) :
      UserStep (G, w) (G.setRelated k (G.data.related.get k ++ [e]), w)
  | save (h : (saveUser G true).run w = .ok (noError, G') w') : UserStep (G, w) (G', w')

/-- A setter call on one entity of a collection is a step of a run. -/
theorem UserStep.setter {k : Kind} {i : Nat} {e' : Entity k.Data}
    (h : ∀ hi : i < (G.data.related.get k).length, SetterCall (G.data.related.get k)[i] e') :
    UserStep (G, w) (G.setRelated k ((G.data.related.get k).set i e'), w) :=
  .edit k _ (forall₂_edit_set fun hi => (h hi).edit)

/-- A setter called on every entity of a collection is a step of a run. -/
theorem UserStep.setterAll {k : Kind} {f : Entity k.Data → Entity k.Data}
    (h : ∀ e ∈ G.data.related.get k, SetterCall e (f e)) :
    UserStep (G, w) (G.setRelated k ((G.data.related.get k).map f), w) :=
  .edit k _ (forall₂_edit_map fun e he => (h e he).edit)

theorem UserStep.userSetter (h : SetterCall G G') (hr : G'.data.related = G.data.related) :
    UserStep (G, w) (G', w) :=
  .editUser G' h.edit hr

theorem InStep.setRelated {k : Kind} {l : List (Entity k.Data)} (hi : InStep G T)
    (h : InStepWith k.spec l (T.get (.of k))) : InStep (G.setRelated k l) T := by
  refine ⟨hi.user, fun j => ?_⟩
  by_cases hj : j = k
  · subst hj
    simpa [User.setRelated] using h
  · simpa [User.setRelated, RelatedData.get_set_ne _ hj] using hi.related j

theorem UserStep.inStep (h : UserStep s s') (hi : InStep s.1 s.2.tables) :
    InStep s'.1 s'.2.tables := by
  cases h with
  | edit k l he => exact hi.setRelated ((hi.related k).edit he)
  | editUser G' he hr => exact ⟨hi.user.edit he, hr ▸ hi.related⟩
  | append k e he => exact hi.setRelated ((hi.related k).append_new he)
  | save h => exact ((wp_ok (saveUser_spec _ true _) h).1 rfl).inStep hi

theorem UserStep.run_inStep (hr : Relation.ReflTransGen UserStep s s')
    (hi : InStep s.1 s.2.tables) : InStep s'.1 s'.2.tables := by
  induction hr with
  | refl => exact hi
  | tail _ hs ih => exact hs.inStep ih

theorem InStep.of_new (hu : G.base.localID = 0)
    (hr : ∀ k, ∀ e ∈ G.data.related.get k, e.base.localID = 0) : InStep G {} :=
  ⟨fun h => absurd hu h, fun k => ⟨fun e he h => absurd (hr k e he) h,
    List.Pairwise.imp_of_mem (fun ha _ _ _ => hr k _ ha) (List.pairwise_of_forall fun _ _ => trivial)⟩⟩

/-- Memory and store stay in step along every run from an empty store and a new user: every
entity with a `local_id` has the one row under it, the row of a clean entity is one its update
statement leaves as it is, and each `SaveUser` call that returns `noError` leaves every entity
of the collections stored and clean. -/
theorem saveUser_runs_stay_in_step (G₀ : User) (w₀ : World) (G : User) (w : World)
    (hempty : w₀.tables = {})
    (hnew : G₀.base.localID = 0 ∧ ∀ k, ∀ e ∈ G₀.data.related.get k, e.base.localID = 0)
    (hrun : Relation.ReflTransGen UserStep (G₀, w₀) (G, w)) :
    InStep G w.tables ∧
      ∀ G' w', (saveUser G true).run w = .ok (noError, G') w' →
        ∀ k, ∀ e ∈ G'.data.related.get k, e.base.localID ≠ 0 ∧ e.base.dirty = false :=
  ⟨UserStep.run_inStep hrun (by rw [hempty]; exact InStep.of_new hnew.1 hnew.2),
    fun _ _ h => saveUser_stored h⟩

/-- Two `SaveUser` calls around a `SetGUID("")` on a client, on an empty store: both return
`noError`, and the client ends clean with no GUID while its row keeps the GUID the first call
wrote, the update statement leaving the `guid` column out for an empty GUID. -/
theorem saveUser_clearedGUID_run :
    ∃ G₁ w₁, (saveUser { base := { id := 1 }, data := {
        email := "a", apiToken := "t", related := { clients := [{ base := { guid := "g" }, data := {} }] } } }
        true).run {} = .ok (noError, G₁) w₁ ∧
      ∃ G₂ w₂, (saveUser (G₁.setRelated .client
          ((G₁.data.related.get .client).map (·.setGUID ""))) true).run w₁ = .ok (noError, G₂) w₂ ∧
        ∃ e ∈ G₂.data.related.clients, e.base.localID ≠ 0 ∧ e.base.dirty = false ∧
          e.base.guid = "" ∧ (w₂.tables.clients.find e.base.localID).map (·.guid) = some (some "g") := by
  obtain ⟨G₁, w₁, h₁, hf₁, hsp₁, hl₁, hd₁, hid₁, hdata₁⟩ := saveUser_new_ok_empty
    { base := { id := 1 }, data := {
      email := "a", apiToken := "t", related := { clients := [{ base := { guid := "g" }, data := {} }] } } }
    (by decide) rfl fun k => by cases k <;> decide
  refine ⟨G₁, w₁, h₁, ?_⟩
  -- The first call inserted the client with the user's ID and its GUID, and nothing else.
  obtain ⟨-, -, hin⟩ := saveUser_inserts _ {} G₁ w₁ rfl (fun k => by cases k <;> decide)
    (noRowsOf_empty 1).1 h₁
  have hempty : ∀ j : Kind, j ≠ .client → G₁.data.related.get j = [] := fun j hj => by
    cases j <;> first | exact absurd rfl hj | exact List.forall₂_nil_left_iff.1 (hin _).1
  obtain ⟨c₁, hc₁⟩ := List.length_eq_one.1 (hin .client).1.length_eq.symm
  obtain ⟨⟨g, r, -, hc⟩, -⟩ := List.forall₂_cons.1 (hc₁ ▸ (hin .client).1)
  have hrows : w₁.tables.clients.rows = [(r, clientRow c₁)] := by
    simpa [hc₁, Kind.rowOf, hc] using (hin .client).2
  have hr : r ≠ 0 := by
    simpa [hc] using (saveUser_stored h₁ .client c₁ (by simp [hc₁])).1
  obtain ⟨hcu, hcg, hcm⟩ : c₁.base.uid = G₁.base.id ∧ c₁.base.guid = "g" ∧
      c₁.base.isMarkedAsDeletedOnServer = false := by
    subst hc; simp [hid₁, Kind.spec, SaveSpec.prepare, clientSpec]
  have hcl : c₁.base.localID = r := by simp [hc]
  have hdata : G₁.data.email = "a" ∧ G₁.data.apiToken = "t" :=
    ⟨congrArg UserData.email hdata₁, congrArg UserData.apiToken hdata₁⟩
  have hu : G₁.base.id ≠ 0 := by rw [hid₁]; decide
  clear hc hin h₁ hdata₁ hid₁
  -- `SetGUID("")` leaves the client dirty with no GUID, and `SetUID` of the same ID does nothing.
  have hc' : (c₁.setGUID "").base = { c₁.base with guid := "", dirty := true } := by
    rw [Entity.setGUID, Entity.setField_of_ne (by simp [hcg])]
    rfl
  have hcu' : (c₁.setGUID "").setUID G₁.base.id = c₁.setGUID "" :=
    Entity.setField_of_eq (by simp [hc', hcu])
  -- The second call updates the client's row, leaving its `guid` column out.
  rw [show G₁.setRelated .client ((G₁.data.related.get .client).map (·.setGUID "")) =
      { G₁ with data := { G₁.data with related := G₁.data.related.set .client [c₁.setGUID ""] } } by
    simp [User.setRelated, hc₁]]
  obtain ⟨⟨_, G₂⟩, w₂, h₂, rfl, hQ⟩ := exists_ok_of_wp (Q := fun res w₂ => res.1 = noError ∧
      ∃ e ∈ res.2.data.related.clients, e.base.localID ≠ 0 ∧ e.base.dirty = false ∧
        e.base.guid = "" ∧ (w₂.tables.clients.find e.base.localID).map (·.guid) = some (some "g")) <|
    wp_saveUser { G₁ with data := { G₁.data with related := G₁.data.related.set .client [c₁.setGUID ""] } }
      ⟨by simp [hdata], by simp [hdata], hu⟩ hf₁ hsp₁ <| by
      rw [saveUserRow_of_clean (G := { G₁ with data := { G₁.data with
        related := G₁.data.related.set .client [c₁.setGUID ""] } }) hl₁ hd₁, wp_pure]
      refine ⟨rfl, wp_saveRelated_one (k := .client) hu (by decide) (by decide)
        (fun j _ hj => by simp [hj, hempty j hj]) ?_⟩
      refine wp_saveKind_one hu (by simp [hc', hcm]) <| wp_saveModel_of_write clientSpec
        (by simp [hcu', clientSpec, cleanAndStored, hc']) fun g' w' ht hf hsp => ?_
      rw [show clientSpec.prepare ((c₁.setGUID "").setUID G₁.base.id) g' = c₁.setGUID "" by
        simp [hcu', SaveSpec.prepare, clientSpec]]
      refine writeModel_update_ok _ (by simpa [hc', hcl] using hr)
        (by simpa [World.pass, hf₁] using hf) ?_ fun w'' ht' hf' hsp' => ?_
      · simp [ht, hrows, Tables.get, hc', hcl]
      refine ⟨rfl, rfl, rfl, hf', by simp [hsp', hsp], rfl, _, List.mem_singleton_self _,
        by simpa [hc', hcl] using hr, rfl, by simp [hc'], ?_⟩
      change ((w''.tables.get (.of .client)).find _).map _ = _
      rw [ht', Tables.get_set, Table.find_update]
      simp [ht, Tables.get, Table.find, hrows, hc', hcl, clientSpec, clientRow, guidColumn, hcg]
  exact ⟨G₂, w₂, h₂, hQ⟩

/-- The run of `saveUser_clearedGUID_run` from the empty store: a save, a `SetGUID("")` on the
client and a save. Its client ends clean with no GUID while its row keeps the GUID the first save
wrote. -/
theorem clearedGUID_reachable :
    let G₀ : User := { base := { id := 1 }, data := {
      email := "a", apiToken := "t", related := { clients := [{ base := { guid := "g" }, data := {} }] } } }
    ∃ G w, Relation.ReflTransGen UserStep (G₀, {}) (G, w) ∧
      ∃ e ∈ G.data.related.clients, e.base.localID ≠ 0 ∧ e.base.dirty = false ∧
        e.base.guid = "" ∧ (w.tables.clients.find e.base.localID).map (·.guid) = some (some "g") := by
  obtain ⟨G₁, w₁, h₁, G₂, w₂, h₂, hstale⟩ := saveUser_clearedGUID_run
  exact ⟨G₂, w₂, ((Relation.ReflTransGen.single (.save h₁)).tail
    (UserStep.setterAll fun e _ => .setGUID e "")).tail (.save h₂), hstale⟩

/-- The run of `clearedGUID_reachable` stays in step, and its client shows why a clean row is
only a fixed point of the update statement. -/
theorem saveUser_runs_stay_in_step_clearedGUID :
    let G₀ : User := { base := { id := 1 }, data := {
      email := "a", apiToken := "t", related := { clients := [{ base := { guid := "g" }, data := {} }] } } }
    ∃ G w, Relation.ReflTransGen UserStep (G₀, {}) (G, w) ∧ (InStep G w.tables ∧
      ∀ G' w', (saveUser G true).run w = .ok (noError, G') w' →
        ∀ k, ∀ e ∈ G'.data.related.get k, e.base.localID ≠ 0 ∧ e.base.dirty = false) ∧
      ∃ e ∈ G.data.related.clients, e.base.localID ≠ 0 ∧ e.base.dirty = false ∧
        e.base.guid = "" ∧ (w.tables.clients.find e.base.localID).map (·.guid) = some (some "g") := by
  intro G₀
  have hnew : G₀.base.localID = 0 ∧ ∀ k, ∀ e ∈ G₀.data.related.get k, e.base.localID = 0 :=
    ⟨rfl, fun k e he => by cases k <;> simp_all [G₀, RelatedData.get]⟩
  obtain ⟨G, w, hrun, hstale⟩ := clearedGUID_reachable
  exact ⟨G, w, hrun, saveUser_runs_stay_in_step G₀ {} G w rfl hnew hrun, hstale⟩

/-- Memory and store are not in step column by column: along that run the client is stored and
clean, but its row's `guid` column is not the one its GUID is written as. -/
theorem saveUser_run_leaves_stale_guid :
    let G₀ : User := { base := { id := 1 }, data := {
      email := "a", apiToken := "t", related := { clients := [{ base := { guid := "g" }, data := {} }] } } }
    ∃ G w, Relation.ReflTransGen UserStep (G₀, {}) (G, w) ∧
      ∃ e ∈ G.data.related.clients, e.base.localID ≠ 0 ∧ e.base.dirty = false ∧
        (w.tables.clients.find e.base.localID).map (·.guid) ≠ some (clientRow e).guid := by
  obtain ⟨G, w, hrun, e, he, hl, hd, hg, hrow⟩ := clearedGUID_reachable
  exact ⟨G, w, hrun, e, he, hl, hd, by simp [hrow, clientRow, guidColumn, hg]⟩

end Kopsik
