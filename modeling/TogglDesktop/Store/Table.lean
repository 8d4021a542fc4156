import TogglDesktop.Model.Base
import Mathlib.Data.List.Nodup

namespace Kopsik
set_option autoImplicit true

/-- A table: its rows in insertion order, each under its `local_id`, which is the
`integer primary key` and so never repeats. -/
structure Table (R : Type) where
  rows : List (Poco.Int64 × R)
  nodup : (rows.map Prod.fst).Nodup

namespace Table

def empty : Table R := ⟨[], List.nodup_nil⟩

/-- The row stored under a `local_id`. -/
def find (t : Table R) (localID : Poco.Int64) : Option R := t.rows.lookup localID

/-- The largest rowid in use, as a signed value, or 0. -/
def maxRowid (t : Table R) : Int := t.rows.foldl (fun m p => max m p.1.toInt) 0

/-- SQLite's rowid for the next insert: one more than the largest in use; once that would pass
the largest `Int64` (9223372036854775807), some unused positive rowid, and none when every
candidate is taken (`SQLITE_FULL`). -/
def newRowid (t : Table R) : Option Poco.Int64 :=
  if t.maxRowid + 1 < 9223372036854775808 then some (BitVec.ofInt 64 (t.maxRowid + 1))
  else ((List.range (t.rows.length + 1)).map (fun k => BitVec.ofNat 64 (k + 1))).find?
    (fun c => !(t.rows.map Prod.fst).contains c && decide (0 < c.toInt))

theorem le_maxRowid_aux (l : List (Poco.Int64 × R)) (m : Int) :
    m ≤ l.foldl (fun m p => max m p.1.toInt) m ∧
      ∀ p ∈ l, p.1.toInt ≤ l.foldl (fun m p => max m p.1.toInt) m := by
  induction l generalizing m with
  | nil => simp
  | cons q l ih =>
    obtain ⟨h1, h2⟩ := ih (max m q.1.toInt)
    rw [List.foldl_cons]
    refine ⟨le_trans (le_max_left _ _) h1, fun p hp => ?_⟩
    rcases List.mem_cons.1 hp with rfl | hp
    · exact le_trans (le_max_right _ _) h1
    · exact h2 p hp

theorem le_maxRowid (t : Table R) {p : Poco.Int64 × R} (hp : p ∈ t.rows) : p.1.toInt ≤ t.maxRowid :=
  (le_maxRowid_aux t.rows 0).2 p hp

theorem toInt_nextRowid (t : Table R) (h : t.maxRowid + 1 < 9223372036854775808) :
    (BitVec.ofInt 64 (t.maxRowid + 1)).toInt = t.maxRowid + 1 := by
  have h0 : 0 ≤ t.maxRowid := (le_maxRowid_aux t.rows 0).1
  have hlt : t.maxRowid + 1 < ((2 ^ 64 : Nat) : Int) := by omega
  rw [BitVec.toInt_ofInt, Int.bmod_pos _ _ (by rw [Int.emod_eq_of_lt (by omega) hlt]; omega),
    Int.emod_eq_of_lt (by omega) hlt]

theorem newRowid_fresh {t : Table R} (h : t.newRowid = some r) :
    r ∉ t.rows.map Prod.fst ∧ 0 < r.toInt := by
  unfold newRowid at h
  split at h
  · rename_i hm
    cases h
    have h0 : 0 ≤ t.maxRowid := (le_maxRowid_aux t.rows 0).1
    have hr := t.toInt_nextRowid hm
    refine ⟨fun hmem => ?_, by omega⟩
    obtain ⟨p, hp, hpr⟩ := List.mem_map.1 hmem
    have := t.le_maxRowid hp
    rw [hpr, hr] at this
    omega
  · have := List.find?_some h
    simp at this
    refine ⟨fun hm => ?_, this.2⟩
    obtain ⟨p, hp, rfl⟩ := List.mem_map.1 hm
    exact this.1 p.2 hp

/-- Appends a row under a rowid not in use. -/
def insert (t : Table R) (localID : Poco.Int64) (row : R) (h : localID ∉ t.rows.map Prod.fst) :
    Table R :=
  ⟨t.rows ++ [(localID, row)], by
    rw [List.map_append, List.nodup_append]
    exact ⟨t.nodup, by simp, by simpa using h⟩⟩

/-- An `insert` statement's effect: the row goes under the rowid SQLite picks, which it
returns; none when the table is full. -/
def append (t : Table R) (row : R) : Option (Poco.Int64 × Table R) :=
  match h : t.newRowid with
  | none => none
  | some r => some (r, t.insert r row (newRowid_fresh h).1)

/-- Below `2^63 - 1`, an insert goes under the rowid one more than the largest in use. -/
theorem append_of_lt (t : Table R) (h : t.maxRowid + 1 < 9223372036854775808) (row : R) :
    ∃ r t', t.append row = some (r, t') ∧ r.toInt = t.maxRowid + 1 ∧
      t'.rows = t.rows ++ [(r, row)] ∧ t'.maxRowid = t.maxRowid + 1 := by
  have hr : t.newRowid = some (BitVec.ofInt 64 (t.maxRowid + 1)) := if_pos h
  have hv := t.toInt_nextRowid h
  unfold append
  split
  · rename_i hn
    cases hn.symm.trans hr
  · rename_i hr'
    cases hr'.symm.trans hr
    refine ⟨_, _, rfl, hv, rfl, ?_⟩
    simp only [maxRowid, insert, List.foldl_append, List.foldl_cons, List.foldl_nil] at hv ⊢
    omega

theorem append_some {t : Table R} (h : t.append row = some (r, t')) :
    r ∉ t.rows.map Prod.fst ∧ 0 < r.toInt ∧ t'.rows = t.rows ++ [(r, row)] := by
  unfold append at h
  split at h
  · cases h
  · rename_i r' hr
    cases h
    exact ⟨(newRowid_fresh hr).1, (newRowid_fresh hr).2, rfl⟩

/-- Rewrites the row under a `local_id`, if there is one. -/
def update (t : Table R) (localID : Poco.Int64) (f : R → R) : Table R :=
  ⟨t.rows.map (fun p => if p.1 = localID then (p.1, f p.2) else p), by
    rw [List.map_map]
    convert t.nodup using 2
    funext p
    simp only [Function.comp_apply]
    split <;> rfl⟩

/-- Removes the row under a `local_id`. -/
def delete (t : Table R) (localID : Poco.Int64) : Table R :=
  ⟨t.rows.filter (fun p => p.1 ≠ localID), (List.filter_sublist _).map Prod.fst |>.nodup t.nodup⟩

theorem find_eq_some_mem {t : Table R} (h : t.find localID = some row) :
    localID ∈ t.rows.map Prod.fst := by
  have := congrArg Option.isSome h
  simp only [find, Option.isSome_some, List.lookup_isSome_iff, beq_iff_eq] at this
  obtain ⟨p, hp, rfl⟩ := this
  exact List.mem_map_of_mem _ hp

theorem lookup_cons_ite (p : Poco.Int64 × R) (rows : List (Poco.Int64 × R)) (l : Poco.Int64) :
    (p :: rows).lookup l = if l = p.1 then some p.2 else rows.lookup l := by
  rw [List.lookup_cons]
  split <;> simp_all

theorem find_update (t : Table R) (localID l : Poco.Int64) (f : R → R) :
    (t.update localID f).find l = if l = localID then (t.find l).map f else t.find l := by
  simp only [find, update]
  induction t.rows with
  | nil => split_ifs <;> rfl
  | cons p rows ih =>
    have hkey : (if p.1 = localID then (p.1, f p.2) else p).1 = p.1 := by split <;> rfl
    rw [List.map_cons, lookup_cons_ite, hkey, ih, lookup_cons_ite]
    by_cases hl : l = p.1
    · rw [if_pos hl, if_pos hl, hl]
      split_ifs <;> rfl
    · simp only [hl, if_false]

theorem find_delete (t : Table R) (localID l : Poco.Int64) :
    (t.delete localID).find l = if l = localID then none else t.find l := by
  simp only [find, delete]
  induction t.rows with
  | nil => split_ifs <;> rfl
  | cons p rows ih =>
    rw [List.filter_cons, lookup_cons_ite]
    by_cases ha : p.1 = localID
    · rw [if_neg (by simpa using ha), ih]
      by_cases hl : l = localID <;> simp [hl, ha]
    · rw [if_pos (by simpa using ha), lookup_cons_ite, ih]
      by_cases hl : l = p.1 <;> simp [hl, ha]

theorem find_append {t : Table R} (h : t.append row = some (r, t')) (l : Poco.Int64) :
    t'.find l = if l = r then some row else t.find l := by
  obtain ⟨hr, -, hrows⟩ := append_some h
  unfold find
  rw [hrows, List.lookup_append]
  split_ifs with hl
  · subst hl
    rw [List.lookup_eq_none_iff.2 fun p hp => by
      simpa using fun h : l = p.1 => hr (h ▸ List.mem_map_of_mem Prod.fst hp)]
    simp
  · cases t.rows.lookup l <;> simp [hl]

end Table

end Kopsik
