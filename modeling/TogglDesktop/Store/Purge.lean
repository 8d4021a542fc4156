import TogglDesktop.Store.Spec
import Mathlib.Data.List.Forall2

namespace Kopsik
set_option autoImplicit true

/-! What `SaveUser` leaves in the collections. Only `saveProjects` and `saveTimeEntries` have
the branch that deletes a model marked as deleted on the server and the loop that purges it;
`saveWorkspaces`, `saveClients`, `saveTasks` and `saveTags` save such a model like any other
and keep it. -/

/-- `m'` is `m` as a save loop left it: the same fields, server ID and deletion mark. -/
def SavedFrom (m m' : Entity D) : Prop :=
  m'.data = m.data ∧ m'.base.id = m.base.id ∧
    m'.base.isMarkedAsDeletedOnServer = m.base.isMarkedAsDeletedOnServer

theorem Written.savedFrom {s : SaveSpec t} (h : Written s w m m' w') : SavedFrom m m' := by
  cases h <;> exact ⟨rfl, rfl, rfl⟩

theorem Step.savedFrom {k : Kind} {m m' : Entity k.Data} (h : Step k.spec k.purges uid m w m' w') :
    SavedFrom m m' := by
  cases h with
  | delete => exact ⟨rfl, rfl, rfl⟩
  | save _ hs =>
    cases hs with
    | skip => exact ⟨by simp, by simp, by simp⟩
    | write g _ _ hw =>
      obtain ⟨hd, hi, hm⟩ := hw.savedFrom
      exact ⟨by simp [hd], by simp [hi], by simp [hm]⟩

theorem forall₂_mem_left {R : α → β → Prop} {l : List α} {l' : List β}
    (h : List.Forall₂ R l l') (ha : a ∈ l) : ∃ b ∈ l', R a b := by
  induction h with
  | nil => simp at ha
  | cons hr _ ih =>
    rcases List.mem_cons.1 ha with rfl | ha
    · exact ⟨_, List.mem_cons_self _ _, hr⟩
    · obtain ⟨b, hb, hab⟩ := ih ha
      exact ⟨b, List.mem_cons_of_mem _ hb, hab⟩

theorem forall₂_mem_right {R : α → β → Prop} {l : List α} {l' : List β}
    (h : List.Forall₂ R l l') (hb : b ∈ l') : ∃ a ∈ l, R a b := by
  induction h with
  | nil => simp at hb
  | cons hr _ ih =>
    rcases List.mem_cons.1 hb with rfl | hb
    · exact ⟨_, List.mem_cons_self _ _, hr⟩
    · obtain ⟨a, ha, hab⟩ := ih hb
      exact ⟨a, List.mem_cons_of_mem _ ha, hab⟩

/-- The models a collection keeps: all of them, except, in the kinds that purge, those marked
as deleted on the server. -/
def Kind.kept (k : Kind) (m : Entity k.Data) : Bool :=
  !(k.purges && m.base.isMarkedAsDeletedOnServer)

theorem Kind.purge_eq_filter (k : Kind) (l : List (Entity k.Data)) :
    k.purge l = l.filter k.kept := by
  unfold Kind.purge Kind.kept
  split <;> simp_all

theorem Kind.purge_cons (k : Kind) (m : Entity k.Data) (l : List (Entity k.Data)) :
    k.purge (m :: l) = k.purge [m] ++ k.purge l := by
  simp only [Kind.purge_eq_filter]
  exact List.filter_append [m] l

theorem Kind.purge_singleton (k : Kind) (m : Entity k.Data) :
    k.purge [m] = if k.kept m then [m] else [] := by
  rw [Kind.purge_eq_filter, List.filter_cons, List.filter_nil]

theorem SavedAll.kept {k : Kind} {l l₀ : List (Entity k.Data)}
    (h : SavedAll (Step k.spec k.purges uid) l w l₀ w') :
    List.Forall₂ SavedFrom (l.filter k.kept) (k.purge l₀) := by
  have hall : List.Forall₂ SavedFrom l l₀ := by
    induction h with
    | nil => exact .nil
    | cons hs _ ih => exact .cons hs.savedFrom ih
  rw [Kind.purge_eq_filter]
  exact List.rel_filter (fun _ _ hm => by simp [Kind.kept, hm.2.2]) hall

/-- After the collections' loops, each kind saved is as `SavedAll.kept` says, and each other
kind is as it was. -/
theorem SavedRelated.kept (h : SavedRelated uid ks r w r' w') (hks : ks.Nodup) (k : Kind) :
    (k ∈ ks → List.Forall₂ SavedFrom ((r.get k).filter k.kept) (r'.get k)) ∧
      (k ∉ ks → r'.get k = r.get k) := by
  induction h with
  | nil => exact ⟨fun h => absurd h (List.not_mem_nil k), fun _ => rfl⟩
  | @cons k₀ ks r r' w w₁ w' l hk _ ih =>
    obtain ⟨hk₀, hks'⟩ := List.nodup_cons.1 hks
    obtain ⟨ih₁, ih₂⟩ := ih hks'
    refine ⟨fun hmem => ?_, fun hmem => ?_⟩
    · by_cases hk : k = k₀
      · subst hk
        rw [ih₂ hk₀, RelatedData.get_set]
        exact hk.kept
      · have := ih₁ (List.mem_of_ne_of_mem hk hmem)
        rwa [RelatedData.get_set_ne _ hk] at this
    · rw [ih₂ fun h => hmem (List.mem_cons_of_mem _ h),
        RelatedData.get_set_ne _ fun h => hmem (by rw [h]; exact List.mem_cons_self _ _)]

/-- Each collection after a `SaveUser` call with related data that returned `noError`: its
former models in order, one to one, without the projects and time entries marked as deleted
on the server, and with every other marked model still there. -/
theorem saveUser_collections (model : User) (w : World) (m' : User) (w' : World)
    (h : (saveUser model true).run w = .ok (noError, m') w') (k : Kind) :
    List.Forall₂ SavedFrom ((model.data.related.get k).filter k.kept) (m'.data.related.get k) := by
  obtain ⟨_, _, _, hrel, _⟩ := (wp_ok (saveUser_spec model true w) h).1 rfl
  obtain ⟨r, hsr, rfl⟩ := hrel
  exact (hsr.kept (by decide) k).1 (by cases k <;> decide)

/-- A stored user with a workspace marked as deleted on the server. -/
theorem saveUser_collections_markedWorkspace :
    let u : User := { base := { id := 1, localID := 5 }, data := {
      email := "a", apiToken := "t", related := { workspaces := [{
        base := { localID := 7, uid := 1, isMarkedAsDeletedOnServer := true }, data := {} }] } } }
    ∃ m' w', (saveUser u true).run {} = .ok (noError, m') w' ∧
      List.Forall₂ SavedFrom ((u.data.related.get .workspace).filter Kind.workspace.kept)
        (m'.data.related.get .workspace) := by
  intro u
  obtain ⟨m', w', h⟩ : ∃ m' w', (saveUser u true).run {} = .ok (noError, m') w' := ⟨_, _, rfl⟩
  exact ⟨m', w', h, saveUser_collections u {} m' w' h .workspace⟩

/-- `SaveUser` returns `noError` on a user whose stored workspace is marked as deleted on the
server, yet the workspace stays in the collection and its row stays in the store. -/
theorem saveUser_keeps_server_deleted_workspace :
    let u : User := { base := { id := 1, localID := 5 }, data := {
      email := "a", apiToken := "t", related := { workspaces := [{
        base := { localID := 7, uid := 1, isMarkedAsDeletedOnServer := true }, data := {} }] } } }
    let w : World := { tables := { workspaces := ⟨[(7, ⟨0, 1, "", false⟩)], by decide⟩ } }
    ∃ m' w', (saveUser u true).run w = .ok (noError, m') w' ∧
      m'.data.related.workspaces = u.data.related.workspaces ∧
      (w'.tables.workspaces.find 7).isSome :=
  ⟨_, _, rfl, rfl, rfl⟩

end Kopsik
