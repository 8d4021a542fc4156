import TogglDesktop.Store.Changes

namespace Kopsik
set_option autoImplicit true

/-! When the save functions return `noError`. The spec lemmas of `Store.Spec` say what a run
that returned `noError` did; these say when a run does return it: no SQLite call fails, no row
clashes with another under a unique index, and the tables have rowids left. Each loop gets a
rule (an invariant its passes keep gives a run that returns `noError`), and `SaveUser` of a new
user with new collections is the instance `saveUser_new_ok`. -/

section Write

variable {t : TableName} {Q : error × Entity t.Data → World → Prop}
  {E : Exception → World → Prop} {w : World}

/-- The insert branch of a save function's `try` block, with no failing call and no clash. -/
theorem writeModel_insert_ok (s : SaveSpec t) {m : Entity t.Data} (hl : m.base.localID = 0)
    (hf : w.faults = []) (hc : ∀ p ∈ (w.tables.get t).rows, t.conflict (s.insertRow m) p.2 = false)
    (happ : (w.tables.get t).append (s.insertRow m) = some (r, tab'))
    (hQ : ∀ w', w'.tables = w.tables.set t tab' → w'.faults = [] → w'.savepoint = w.savepoint →
      Q (noError, (m.setLocalID r).clearDirty) w') :
    wp (writeModel s m) Q E w := by
  have hany : (w.tables.get t).rows.any (fun p => t.conflict (s.insertRow m) p.2) = false := by
    simpa using hc
  simp only [writeModel, hl, ne_eq, not_true_eq_false, ↓reduceIte, wp_bind, wp_insertInto, hf,
    List.head?_nil, reduceCtorEq, hany, Bool.false_eq_true, happ, wp_lastError,
    World.pass_lastMessage, wp_selectLastInsertRowid, World.pass, List.tail_nil, wp_pushChange,
    wp_pure]
  exact hQ _ rfl rfl rfl

theorem writeModel_update_ok (s : SaveSpec t) {m : Entity t.Data} (hl : m.base.localID ≠ 0)
    (hf : w.faults = [])
    (hc : (w.tables.get t).rows.any (fun p => p.1 = m.base.localID &&
      (w.tables.get t).rows.any fun q => q.1 ≠ m.base.localID &&
        t.conflict (s.updateRow m p.2) q.2) = false)
    (hQ : ∀ w', w'.tables = w.tables.set t ((w.tables.get t).update m.base.localID (s.updateRow m)) →
      w'.faults = [] → w'.savepoint = w.savepoint → Q (noError, m.clearDirty) w') :
    wp (writeModel s m) Q E w := by
  simp only [writeModel, hl, ne_eq, not_false_eq_true, ↓reduceIte, wp_bind, wp_updateWhere, hf,
    List.head?_nil, reduceCtorEq, hc, Bool.false_eq_true, wp_lastError, wp_pushChange, wp_pure,
    World.pass_lastMessage, not_true_eq_false]
  exact hQ _ rfl (by simp [World.pass, hf]) rfl

theorem wp_saveModel_of_write (s : SaveSpec t) {m : Entity t.Data} (hs : s.skips m = false)
    (h : ∀ g w₁, w₁.tables = w.tables → w₁.faults = w.faults → w₁.savepoint = w.savepoint →
      wp (writeModel s (s.prepare m g)) Q (fun exc => Q (exc.displayText, s.prepare m g)) w₁) :
    wp (saveModel s m) Q E w := by
  unfold saveModel
  cases he : s.ensuresGUID
  · simpa only [hs, he, SaveSpec.prepare, Bool.false_eq_true, ↓reduceIte, wp_bind, wp_pure,
      wp_tryCatch] using h "" w rfl rfl rfl
  · simp only [hs, Bool.false_eq_true, ↓reduceIte, wp_bind, ensureModelGUID]
    split_ifs with hg
    · simpa only [wp_bind, wp_generateGUID, wp_pure, wp_tryCatch, SaveSpec.prepare, he,
        ↓reduceIte] using h (w.uuid w.drawn).1 { w with drawn := w.drawn + 1 } rfl rfl rfl
    · simpa only [wp_pure, wp_tryCatch, SaveSpec.prepare, he, ↓reduceIte, Entity.ensureGUID, hg]
        using h "" w rfl rfl rfl

end Write

/-! ### The loops' rules -/

section Loops

variable {E : Exception → World → Prop}

/-- The rule of the plain loop: an invariant on the models left and the world that each pass
keeps while returning `noError` holds at the end, and the loop returns `noError` with each model
related to the one it saved. -/
theorem saveList_ok {save : Entity D → DB (error × Entity D)} (R : Entity D → Entity D → Prop)
    (I : List (Entity D) → World → Prop)
    (hstep : ∀ e l w, I (e :: l) w →
      wp (save (e.setUID uid)) (fun r w' => r.1 = noError ∧ R e r.2 ∧ I l w') E w) :
    ∀ l w, I l w → wp (saveList save uid l)
      (fun r w' => r.1 = noError ∧ List.Forall₂ R l r.2 ∧ I [] w') E w
  | [], _, h => ⟨rfl, .nil, h⟩
  | e :: l, w, h => by
    simp only [saveList, wp_bind]
    refine wp_mono ?_ (fun _ _ h => h) (hstep e l w h)
    rintro ⟨err, m⟩ w₁ ⟨rfl, hR, h₁⟩
    simp only [ne_eq, not_true_eq_false, ↓reduceIte, wp_bind]
    refine wp_mono ?_ (fun _ _ h => h) (saveList_ok R I hstep l w₁ h₁)
    rintro ⟨err, rest⟩ w' ⟨rfl, hl, h'⟩
    exact ⟨rfl, .cons hR hl, h'⟩

theorem saveListDeleting_of_unmarked (t : TableName)
    (save : Entity t.Data → DB (error × Entity t.Data)) (uid : Poco.UInt64) :
    ∀ l : List (Entity t.Data), (∀ e ∈ l, e.base.isMarkedAsDeletedOnServer = false) →
      saveListDeleting t save uid l = saveList save uid l
  | [], _ => rfl
  | e :: l, h => by
    simp only [saveListDeleting, h e (List.mem_cons_self _ _), Bool.false_eq_true, ↓reduceIte,
      saveListDeleting_of_unmarked t save uid l fun e he => h e (List.mem_cons_of_mem _ he)]
    rfl

theorem wp_saveKind_of_saveList {k : Kind} {l : List (Entity k.Data)}
    {Q : error × List (Entity k.Data) → World → Prop} (hu : uid ≠ 0) (hm : ∀ e ∈ l, e.base.isMarkedAsDeletedOnServer = false)
    (h : wp (saveList (saveModel k.spec) uid l)
      (fun r w' => r.1 = noError ∧ Q (noError, k.purge r.2) w') E w) :
    wp (saveKind uid k l) Q E w := by
  rw [saveKind_eq]
  cases hp : k.purges <;>
    simp only [Bool.false_eq_true, ↓reduceIte, savePurging, pocoAssert, hu, ne_eq,
      not_false_eq_true, decide_True, wp_bind, wp_pure,
      saveListDeleting_of_unmarked (.of k) (saveModel k.spec) uid l hm] <;>
    refine wp_mono ?_ (fun _ _ h => h) h <;>
    rintro ⟨err, l'⟩ w' ⟨rfl, hQ⟩ <;>
    simpa [Kind.purge, hp] using hQ

/-- The rule of a kind's collection: the plain loop's rule, through the purge. -/
theorem saveKind_ok (hu : uid ≠ 0) (k : Kind) {l : List (Entity k.Data)} {w : World}
    (R : Entity k.Data → Entity k.Data → Prop) (I : List (Entity k.Data) → World → Prop)
    (hstep : ∀ (e : Entity k.Data) l w, I (e :: l) w →
      wp (saveModel k.spec (e.setUID uid)) (fun r w' => r.1 = noError ∧ R e r.2 ∧ I l w') E w)
    (hm : ∀ e ∈ l, e.base.isMarkedAsDeletedOnServer = false) (h : I l w) :
    wp (saveKind uid k l)
      (fun r w' => r.1 = noError ∧ (∃ l', List.Forall₂ R l l' ∧ r.2 = k.purge l') ∧ I [] w') E w :=
  wp_saveKind_of_saveList hu hm <| wp_mono (fun r _ ⟨he, hl, hI⟩ => ⟨he, rfl, ⟨r.2, hl, rfl⟩, hI⟩)
    (fun _ _ h => h) (saveList_ok R I hstep l w h)

theorem wp_saveRelated_cons {Q : error × RelatedData → World → Prop}
    (h : wp (saveKind uid k (r.get k))
      (fun res w' => res.1 = noError ∧ wp (saveRelated uid ks (r.set k res.2)) Q E w') E w) :
    wp (saveRelated uid (k :: ks) r) Q E w := by
  simp only [saveRelated, wp_bind]
  refine wp_mono ?_ (fun _ _ h => h) h
  rintro ⟨err, l⟩ w' ⟨rfl, h'⟩
  simpa using h'

theorem wp_saveKind_nil {k : Kind} {Q : error × List (Entity k.Data) → World → Prop}
    (hu : uid ≠ 0) : wp (saveKind uid k []) Q E w ↔ Q (noError, []) w := by
  rw [saveKind_eq]
  cases k.purges <;> simp only [Bool.false_eq_true, ↓reduceIte, savePurging, pocoAssert, hu,
    ne_eq, not_false_eq_true, decide_True, wp_bind, wp_pure, saveList, saveListDeleting,
    List.filter_nil, not_true_eq_false]

/-- The rule of `saveRelated`: an invariant on the kinds left, the collections and the world that
each kind's save keeps while returning `noError` holds at the end. -/
theorem saveRelated_ok (I : List Kind → RelatedData → World → Prop)
    (hstep : ∀ k ks r w, I (k :: ks) r w → wp (saveKind uid k (r.get k))
      (fun res w' => res.1 = noError ∧ I ks (r.set k res.2) w') E w) :
    ∀ ks r w, I ks r w →
      wp (saveRelated uid ks r) (fun res w' => res.1 = noError ∧ I [] res.2 w') E w
  | [], _, _, h => ⟨rfl, h⟩
  | k :: ks, r, w, h => wp_saveRelated_cons <|
    wp_mono (fun _ w' ⟨he, hI⟩ => ⟨he, saveRelated_ok I hstep ks _ w' hI⟩) (fun _ _ h => h)
      (hstep k ks r w h)

/-- An empty collection: `saveRelated` passes over its kind. -/
theorem wp_saveRelated_cons_nil {Q : error × RelatedData → World → Prop} (hu : uid ≠ 0)
    {r : RelatedData} (hj : r.get j = []) :
    wp (saveRelated uid (j :: ks) r) Q E w ↔ wp (saveRelated uid ks r) Q E w := by
  have hr : r.set j [] = r := hj ▸ r.set_get j
  simp only [saveRelated, wp_bind, hj, wp_saveKind_nil hu, ne_eq, not_true_eq_false, ↓reduceIte,
    hr]

theorem wp_saveRelated_empty {Q : error × RelatedData → World → Prop} (hu : uid ≠ 0) :
    ∀ {ks : List Kind} {r : RelatedData}, (∀ j ∈ ks, r.get j = []) →
      (wp (saveRelated uid ks r) Q E w ↔ Q (noError, r) w)
  | [], _, _ => Iff.rfl
  | _ :: _, _, h => (wp_saveRelated_cons_nil hu (h _ (List.mem_cons_self _ _))).trans
    (wp_saveRelated_empty hu fun i hi => h i (List.mem_cons_of_mem _ hi))

/-- Collections with nothing to save but the one of `k`: `saveRelated` is that collection's
save. -/
theorem wp_saveRelated_one {k : Kind} {Q : error × RelatedData → World → Prop} (hu : uid ≠ 0) :
    ∀ {ks : List Kind} {r : RelatedData} {w : World}, k ∈ ks → ks.Nodup →
      (∀ j ∈ ks, j ≠ k → r.get j = []) →
      wp (saveKind uid k (r.get k))
        (fun res w' => res.1 = noError ∧ Q (noError, r.set k res.2) w') E w →
      wp (saveRelated uid ks r) Q E w
  | [], _, _, hk, _, _, _ => absurd hk (List.not_mem_nil _)
  | j :: ks, r, w, hk, hnd, hempty, h => by
    obtain ⟨hj, hnd'⟩ := List.nodup_cons.1 hnd
    by_cases hjk : j = k
    · subst hjk
      refine wp_saveRelated_cons (wp_mono ?_ (fun _ _ h => h) h)
      rintro ⟨err, l⟩ w' ⟨rfl, hQ⟩
      refine ⟨rfl, (wp_saveRelated_empty hu fun i hi => ?_).2 hQ⟩
      have hij : i ≠ j := fun h => hj (h ▸ hi)
      rw [RelatedData.get_set_ne _ hij]
      exact hempty i (List.mem_cons_of_mem _ hi) hij
    · exact (wp_saveRelated_cons_nil hu (hempty j (List.mem_cons_self _ _) hjk)).2 <|
        wp_saveRelated_one hu (List.mem_of_ne_of_mem (Ne.symm hjk) hk) hnd'
          (fun i hi => hempty i (List.mem_cons_of_mem _ hi)) h

theorem wp_saveKind_one {k : Kind} {e : Entity k.Data}
    {Q : error × List (Entity k.Data) → World → Prop} (hu : uid ≠ 0)
    (hm : e.base.isMarkedAsDeletedOnServer = false)
    (h : wp (saveModel k.spec (e.setUID uid))
      (fun r w' => r.1 = noError ∧ Q (noError, k.purge [r.2]) w') E w) :
    wp (saveKind uid k [e]) Q E w := by
  refine wp_saveKind_of_saveList hu (by simpa using hm) ?_
  simp only [saveList, wp_bind]
  refine wp_mono ?_ (fun _ _ h => h) h
  rintro ⟨err, m⟩ w' ⟨rfl, hQ⟩
  simpa using hQ

end Loops

/-! ### `SaveUser` -/

section User

variable {E : Exception → World → Prop} {w : World}

theorem saveUserRow_of_clean (hl : G.base.localID ≠ 0) (hd : G.base.dirty = false) :
    saveUserRow G = pure (noError, G) := by
  simp only [saveUserRow, hl, hd, decide_False, Bool.or_false, Bool.false_eq_true, ↓reduceIte]

theorem wp_saveUserRow_insert {Q : error × User → World → Prop} (hl : G.base.localID = 0)
    (hf : w.faults = []) (hc : ∀ p ∈ w.tables.users.rows, (userRow G).conflict p.2 = false)
    (happ : w.tables.users.append (userRow G) = some (r, tab'))
    (hQ : ∀ w', w'.tables = w.tables.set .users tab' → w'.faults = [] →
      w'.savepoint = w.savepoint → Q (noError, (G.setLocalID r).clearDirty) w') :
    wp (saveUserRow G) Q E w := by
  simp only [saveUserRow, hl, decide_True, Bool.true_or, ↓reduceIte, wp_tryCatch, wp_bind]
  exact writeModel_insert_ok userSpec hl hf hc happ fun w' ht hf' hsp' => by
    simpa using hQ w' ht hf' hsp'

/-- `SaveUser` with related data returns what its user row part and its collections' saves
return, when both return `noError`, no call fails and the commit finds the transaction. -/
theorem wp_saveUser (G : User) {Q : error × User → World → Prop}
    (hvalid : G.data.email ≠ "" ∧ G.data.apiToken ≠ "" ∧ G.base.id ≠ 0)
    (hf : w.faults = []) (hopen : w.savepoint = none)
    (h : wp (saveUserRow G) (fun r w₁ => r.1 = noError ∧
      wp (saveRelated r.2.base.id relatedKinds r.2.data.related) (fun res w₂ => res.1 = noError ∧
        w₂.faults = [] ∧ w₂.savepoint ≠ none ∧
        Q (noError, { r.2 with data := { r.2.data with related := res.2 } })
          { w₂.pass with savepoint := none }) E w₁) E { w.pass with savepoint := some w.tables }) :
    wp (saveUser G true) Q E w := by
  simp only [saveUser, hvalid, ↓reduceIte, wp_bind, wp_begin, hf, hopen, List.head?_nil,
    reduceCtorEq]
  refine wp_mono ?_ (fun _ _ h => h) h
  rintro ⟨err, G₁⟩ w₁ ⟨rfl, h₁⟩
  simp only [ne_eq, not_true_eq_false, ↓reduceIte, saveUserRelated, wp_bind]
  refine wp_mono ?_ (fun _ _ h => h) h₁
  rintro ⟨err, r⟩ w₂ ⟨rfl, hf₂, hsp₂, hQ⟩
  obtain ⟨D, hD⟩ := Option.ne_none_iff_exists'.1 hsp₂
  simpa [wp_commit, hf₂, hD] using hQ

end User

/-! ### New models -/

/-- The row the loop of a kind's save function inserts for a new model of the user `uid`, when
the model's save draws `g` if it needs a GUID. -/
def Kind.newRow (k : Kind) (uid : Poco.UInt64) (e : Entity k.Data) (g : String) : k.Row :=
  k.spec.insertRow (k.spec.prepare (e.setUID uid) g)

/-- A collection the loop of its save function inserts model by model into the table `tab`:
new models, none marked as deleted on the server, whose rows clash under the unique indexes with
no row of the table and with no row inserted before them, whatever GUIDs are drawn, and rowids
left for all of them. -/
structure Kind.Insertable (k : Kind) (uid : Poco.UInt64) (tab : Table k.Row)
    (l : List (Entity k.Data)) : Prop where
  new : ∀ e ∈ l, e.base.localID = 0 ∧ e.base.isMarkedAsDeletedOnServer = false
  fresh : ∀ e ∈ l, ∀ g, ∀ p ∈ tab.rows, k.conflict (k.newRow uid e g) p.2 = false
  apart : l.Pairwise fun a b => ∀ g g', k.conflict (k.newRow uid b g') (k.newRow uid a g) = false
  room : tab.maxRowid + l.length < 9223372036854775808

theorem Kind.Insertable.tail {k : Kind} {tab tab' : Table k.Row} {e : Entity k.Data}
    {l : List (Entity k.Data)} (h : k.Insertable uid tab (e :: l))
    (hrows : tab'.rows = tab.rows ++ [(r, k.newRow uid e g)])
    (hmax : tab'.maxRowid = tab.maxRowid + 1) : k.Insertable uid tab' l where
  new e he := h.new e (List.mem_cons_of_mem _ he)
  fresh e' he' g' p hp := by
    rw [hrows, List.mem_append, List.mem_singleton] at hp
    rcases hp with hp | rfl
    · exact h.fresh e' (List.mem_cons_of_mem _ he') g' p hp
    · exact List.rel_of_pairwise_cons h.apart he' g g'
  apart := (List.pairwise_cons.1 h.apart).2
  room := by have := h.room; simp only [List.length_cons] at this; omega

theorem Kind.insertable_empty (k : Kind) (uid : Poco.UInt64) {l : List (Entity k.Data)}
    (hl : l.length ≤ 1)
    (hnew : ∀ e ∈ l, e.base.localID = 0 ∧ e.base.isMarkedAsDeletedOnServer = false) :
    k.Insertable uid Table.empty l where
  new := hnew
  fresh _ _ _ _ hp := absurd hp (List.not_mem_nil _)
  apart := by
    match l, hl with
    | [], _ => exact .nil
    | [_], _ => exact List.pairwise_singleton _ _
  room := by simp only [Table.maxRowid, Table.empty, List.foldl_nil]; omega

/-- What the passes over an insertable collection leave: no fault consumed, the transaction as
it was, every other table untouched, and the rest of the collection insertable. -/
def InsertsLeft (k : Kind) (uid : Poco.UInt64) (w : World) (l : List (Entity k.Data))
    (w' : World) : Prop :=
  w'.faults = [] ∧ w'.savepoint = w.savepoint ∧
    (∀ j, j ≠ .of k → w'.tables.get j = w.tables.get j) ∧
    k.Insertable uid (w'.tables.get (.of k)) l

theorem saveModel_inserts {k : Kind} {e : Entity k.Data} {l : List (Entity k.Data)} (w₀ : World) (h : InsertsLeft k uid w₀ (e :: l) w) :
    wp (saveModel k.spec (e.setUID uid))
      (fun r w' => r.1 = noError ∧ True ∧ InsertsLeft k uid w₀ l w') E w := by
  obtain ⟨hf, hsp, hother, hi⟩ := h
  have hl := (hi.new e (List.mem_cons_self _ _)).1
  refine wp_saveModel_of_write k.spec (by simp [Kind.spec_skips, cleanAndStored, hl])
    fun g w₁ ht hf₁ hsp₁ => ?_
  obtain ⟨r, tab', happ, -, hrows, hmax⟩ := (w.tables.get (.of k)).append_of_lt
    (by have := hi.room; simp only [List.length_cons] at this; omega) (k.newRow uid e g)
  refine writeModel_insert_ok k.spec (by simpa using hl) (hf₁.trans hf)
    (ht ▸ hi.fresh e (List.mem_cons_self _ _) g) (ht ▸ happ) fun w' ht' hf' hsp' => ?_
  refine ⟨rfl, trivial, hf', hsp'.trans (hsp₁.trans hsp), fun j hj => ?_, ?_⟩
  · rw [ht', ht, Tables.get_set_ne _ hj, hother j hj]
  · rw [ht', Tables.get_set]
    exact hi.tail hrows hmax

/-- The collections of a new user as `SaveUser` inserts them, kind after kind. -/
def InsertsRelated (uid : Poco.UInt64) (D : Tables) (ks : List Kind) (r : RelatedData)
    (w : World) : Prop :=
  ks.Nodup ∧ w.faults = [] ∧ w.savepoint = some D ∧
    ∀ k ∈ ks, k.Insertable uid (w.tables.get (.of k)) (r.get k)

theorem saveKind_inserts (hu : uid ≠ 0) (h : InsertsRelated uid D (k :: ks) r w) :
    wp (saveKind uid k (r.get k))
      (fun res w' => res.1 = noError ∧ InsertsRelated uid D ks (r.set k res.2) w') E w := by
  obtain ⟨hnd, hf, hsp, hi⟩ := h
  obtain ⟨hk, hnd'⟩ := List.nodup_cons.1 hnd
  refine wp_mono ?_ (fun _ _ h => h) (saveKind_ok hu k (fun _ _ => True) (InsertsLeft k uid w)
    (fun e l w₁ h₁ => saveModel_inserts w h₁) (fun e he => ((hi k (List.mem_cons_self _ _)).new e he).2)
    ⟨hf, rfl, fun _ _ => rfl, hi k (List.mem_cons_self _ _)⟩)
  rintro _ w' ⟨he, -, hf', hsp', hother, -⟩
  refine ⟨he, hnd', hf', hsp'.trans hsp, fun j hj => ?_⟩
  have hjk : j ≠ k := fun h => hk (h ▸ hj)
  rw [RelatedData.get_set_ne _ hjk, hother _ fun h => hjk (TableName.of.inj h)]
  exact hi j (List.mem_cons_of_mem _ hj)

/-- Progress of `SaveUser`. A new user with valid fields whose collections are insertable,
saved with related data on a store outside a transaction where no SQLite call fails, whose users
rows do not clash with the user's and whose users table has a rowid left, returns `noError`. -/
theorem saveUser_new_ok (G : User) (w : World)
    (hvalid : G.data.email ≠ "" ∧ G.data.apiToken ≠ "" ∧ G.base.id ≠ 0)
    (hnew : G.base.localID = 0) (hf : w.faults = []) (hopen : w.savepoint = none)
    (huser : ∀ p ∈ w.tables.users.rows, (userRow G).conflict p.2 = false)
    (hroom : w.tables.users.maxRowid + 1 < 9223372036854775808)
    (hrel : ∀ k : Kind, k.Insertable G.base.id (w.tables.get (.of k)) (G.data.related.get k)) :
    ∃ G' w', (saveUser G true).run w = .ok (noError, G') w' ∧ w'.faults = [] ∧
      w'.savepoint = none ∧ G'.base.localID ≠ 0 ∧ G'.base.dirty = false ∧
      G'.base.id = G.base.id ∧ G'.data = { G.data with related := G'.data.related } := by
  obtain ⟨r, tab', happ, -⟩ := w.tables.users.append_of_lt hroom (userRow G)
  have hr : r ≠ 0 := fun h => by simpa [h] using (Table.append_some happ).2.1
  -- the user's row is inserted under `r`, then the collections kind after kind
  have hsave : wp (saveUser G true) (fun r w' => r.1 = noError ∧ w'.faults = [] ∧
      w'.savepoint = none ∧ r.2.base.localID ≠ 0 ∧ r.2.base.dirty = false ∧
      r.2.base.id = G.base.id ∧ r.2.data = { G.data with related := r.2.data.related })
      (fun _ _ => False) w := by
    refine wp_saveUser G hvalid hf hopen <| wp_saveUserRow_insert hnew (by simp [World.pass, hf])
      huser happ fun w₁ ht hf₁ hsp₁ => ⟨rfl, wp_mono ?_ (fun _ _ h => h) <|
        saveRelated_ok (InsertsRelated G.base.id w.tables)
          (fun k ks r w h => saveKind_inserts hvalid.2.2 h) relatedKinds _ w₁
          ⟨by decide, hf₁, hsp₁, fun k _ => ?_⟩⟩
    · rintro _ w₂ ⟨he, -, hf₂, hsp₂, -⟩
      exact ⟨he, hf₂, by simp [hsp₂], rfl, by simp [World.pass, hf₂], rfl, by simpa using hr, rfl,
        rfl, rfl⟩
    · rw [ht, Tables.get_set_ne _ (by simp)]
      exact hrel k
  obtain ⟨⟨err, G'⟩, w', hrun, rfl, hQ⟩ := exists_ok_of_wp hsave
  exact ⟨G', w', hrun, hQ⟩

/-- On the empty store: a new user with valid fields whose collections hold at most one new model
each, none marked as deleted on the server. -/
theorem saveUser_new_ok_empty (G : User)
    (hvalid : G.data.email ≠ "" ∧ G.data.apiToken ≠ "" ∧ G.base.id ≠ 0)
    (hnew : G.base.localID = 0)
    (hrel : ∀ k : Kind, (G.data.related.get k).length ≤ 1 ∧ ∀ e ∈ G.data.related.get k,
      e.base.localID = 0 ∧ e.base.isMarkedAsDeletedOnServer = false) :
    ∃ G' w', (saveUser G true).run {} = .ok (noError, G') w' ∧ w'.faults = [] ∧
      w'.savepoint = none ∧ G'.base.localID ≠ 0 ∧ G'.base.dirty = false ∧
      G'.base.id = G.base.id ∧ G'.data = { G.data with related := G'.data.related } :=
  saveUser_new_ok G {} hvalid hnew rfl rfl (fun _ hp => absurd hp (List.not_mem_nil _))
    (by decide) fun k => by cases k <;> exact Kind.insertable_empty _ _ (hrel _).1 (hrel _).2

end Kopsik
