import TogglDesktop.Model.TimeEntry
import Mathlib.Logic.Relation

namespace Kopsik
set_option autoImplicit true

namespace TimeEntry

/-- The running/stopped rule of a time entry, on the numeric values of its fields: a running
entry has `Stop = 0` and `Duration = -Start`, a stopped one has `Stop = Start + Duration`. -/
def Consistent (te : TimeEntry) : Prop :=
  0 < te.data.start.toNat ∧
  ((te.data.durationInSeconds.toInt < 0 ∧ te.data.durationInSeconds.toInt = -te.data.start.toNat ∧
      te.data.stop.toNat = 0) ∨
    (0 ≤ te.data.durationInSeconds.toInt ∧
      (te.data.stop.toNat : Int) = te.data.start.toNat + te.data.durationInSeconds.toInt))

instance (te : TimeEntry) : Decidable te.Consistent := inferInstanceAs (Decidable (_ ∧ (_ ∨ _)))

theorem Consistent.stop_eq_zero_iff (h : Consistent te) :
    te.data.stop = 0 ↔ te.data.durationInSeconds.toInt < 0 := by
  have h0 : (0 : Poco.UInt64).toNat = 0 := rfl
  rw [BitVec.toNat_eq, h0]
  unfold Consistent at h
  omega

theorem toInt64 (x : Poco.Int64) :
    x.toInt = if 2 * x.toNat < 2 ^ 64 then (x.toNat : Int) else (x.toNat : Int) - (2 ^ 64 : Nat) :=
  BitVec.toInt_eq_toNat_cond x

theorem consistent_setStartString (P : String → Poco.Int64) (te : TimeEntry) (s : String)
    (h : Consistent te) (hp : 0 < (P s).toInt) : Consistent (te.setStartString P s) := by
  unfold setStartString Consistent at *
  have := (P s).isLt
  have := te.data.durationInSeconds.isLt
  have := te.data.start.isLt
  have := te.data.stop.isLt
  split <;> simp only [setStart_data, setDurationInSeconds_data, setStop_data, BitVec.toNat_neg,
    BitVec.toNat_add, toInt64] at * <;> split_ifs at * <;> omega

theorem consistent_setDurationString (D : String → BitVec 32) (now : Poco.Int64) (te : TimeEntry)
    (s : String) (h : Consistent te) (hd : 0 ≤ (D s).toInt) (hn : (D s).toInt < now.toInt)
    (hw : te.data.durationInSeconds.toInt < 0 ∨ te.data.start.toNat + (D s).toNat < 2 ^ 64) :
    Consistent (te.setDurationString D now s) := by
  unfold setDurationString Consistent at *
  have := (D s).isLt
  have := now.isLt
  have := te.data.durationInSeconds.isLt
  have := te.data.start.isLt
  have := te.data.stop.isLt
  have hd' : (D s).toInt = (D s).toNat := by
    rw [BitVec.toInt_eq_toNat_cond] at hd ⊢; split_ifs at hd ⊢ <;> omega
  have hx : ((D s).signExtend 64).toNat = (D s).toNat := by
    simp only [BitVec.signExtend, BitVec.toNat_ofInt, hd']; omega
  split <;> simp only [setStart_data, setDurationInSeconds_data, setStop_data, BitVec.toNat_neg,
    BitVec.toNat_add, BitVec.toNat_sub, hx, toInt64] at * <;> split_ifs at * <;> omega

theorem consistent_stopAt (now at_ : Poco.Int64) (te : TimeEntry) (h : Consistent te)
    (hr : te.data.durationInSeconds.toInt < 0) (ha : (te.data.start.toNat : Int) < at_.toInt) :
    ∃ te', te.stopAt now at_ = .ok te' ∧ 0 < te'.data.durationInSeconds.toInt ∧ Consistent te' := by
  have := at_.isLt
  have := te.data.durationInSeconds.isLt
  have := te.data.start.isLt
  have := te.data.stop.isLt
  have hsum : 0 < (at_ + te.data.durationInSeconds).toInt := by
    unfold Consistent at h
    simp only [BitVec.toNat_add, toInt64] at *; split_ifs at * <;> omega
  have h0 : at_ ≠ 0 := by rintro rfl; unfold Consistent at h; simp at ha; omega
  refine ⟨((te.setDurationInSeconds (at_ + te.data.durationInSeconds)).setStop at_).setUIModifiedAt now,
    ?_, by simpa only [setUIModifiedAt_data, setStop_data, setDurationInSeconds_data] using hsum, ?_⟩
  · simp only [stopAt, if_neg h0, setDurationInSeconds_data, hsum, not_true_eq_false, if_false]
    rfl
  unfold Consistent at *
  simp only [setStop_data, setUIModifiedAt_data, setDurationInSeconds_data, BitVec.toNat_add,
    toInt64] at *
  split_ifs at * <;> omega

theorem consistent_setStopString (P : String → Poco.Int64) (te : TimeEntry) (s : String)
    (h : Consistent te) (hs : 0 ≤ te.data.durationInSeconds.toInt)
    (hp : (te.data.start.toNat : Int) ≤ (P s).toInt) : Consistent (te.setStopString P s) := by
  unfold setStopString Consistent at *
  have := (P s).isLt
  have := te.data.durationInSeconds.isLt
  have := te.data.start.isLt
  have := te.data.stop.isLt
  simp only [if_pos hs, setDurationInSeconds_data, setStop_data]
  simp only [BitVec.toNat_sub, toInt64] at *
  split_ifs at * <;> omega

/-- The edits of a time entry's times, each under the guard it is called with. -/
inductive EditStep (Parse8601 : String → Poco.Int64) (ParseDurationString : String → BitVec 32) :
    TimeEntry → TimeEntry → Prop
  | setStartString (te : TimeEntry) (s : String) : 0 < (Parse8601 s).toInt →
      EditStep Parse8601 ParseDurationString te (te.setStartString Parse8601 s)
  | setStopString (te : TimeEntry) (s : String) : 0 ≤ te.data.durationInSeconds.toInt →
      (te.data.start.toNat : Int) ≤ (Parse8601 s).toInt →
      EditStep Parse8601 ParseDurationString te (te.setStopString Parse8601 s)
  | setDurationString (te : TimeEntry) (s : String) (now : Poco.Int64) :
      0 ≤ (ParseDurationString s).toInt → (ParseDurationString s).toInt < now.toInt →
      (te.data.durationInSeconds.toInt < 0 ∨
        te.data.start.toNat + (ParseDurationString s).toNat < 2 ^ 64) →
      EditStep Parse8601 ParseDurationString te (te.setDurationString ParseDurationString now s)
  | stopAt (te te' : TimeEntry) (now at_ : Poco.Int64) : te.data.durationInSeconds.toInt < 0 →
      (te.data.start.toNat : Int) < at_.toInt → te.stopAt now at_ = .ok te' →
      EditStep Parse8601 ParseDurationString te te'

theorem EditStep.consistent (hs : EditStep P D te te') (h : Consistent te) : Consistent te' := by
  cases hs with
  | setStartString s hp => exact consistent_setStartString P te s h hp
  | setStopString s hd hp => exact consistent_setStopString P te s h hd hp
  | setDurationString s now hd hn hw => exact consistent_setDurationString D now te s h hd hn hw
  | stopAt _ now at_ hr ha hok =>
    obtain ⟨te'', hok', -, hc⟩ := consistent_stopAt now at_ te h hr ha
    rw [hok] at hok'
    cases hok'
    exact hc

theorem EditStep.run_consistent (h : Consistent te)
    (hr : Relation.ReflTransGen (EditStep P D) te te') : Consistent te' := by
  induction hr with
  | refl => exact h
  | tail _ hs ih => exact hs.consistent ih

/-- Start and duration edits and `StopAt` keep the running/stopped rule, and `StopAt`'s
assertion holds; a stop string keeps it on a stopped entry with a stop no earlier than the
start. Every run of such edits from a consistent entry keeps `Stop = 0` exactly while running. -/
theorem edits_keep_running_rule (Parse8601 : String → Poco.Int64)
    (ParseDurationString : String → BitVec 32) :
    (∀ te s, Consistent te → 0 < (Parse8601 s).toInt →
      Consistent (te.setStartString Parse8601 s)) ∧
    (∀ te s now, Consistent te → 0 ≤ (ParseDurationString s).toInt →
      (ParseDurationString s).toInt < now.toInt →
      (te.data.durationInSeconds.toInt < 0 ∨
        te.data.start.toNat + (ParseDurationString s).toNat < 2 ^ 64) →
      Consistent (te.setDurationString ParseDurationString now s)) ∧
    (∀ te now at_, Consistent te → te.data.durationInSeconds.toInt < 0 →
      (te.data.start.toNat : Int) < at_.toInt →
      ∃ te', te.stopAt now at_ = .ok te' ∧ 0 < te'.data.durationInSeconds.toInt ∧
        Consistent te') ∧
    (∀ te s, Consistent te → 0 ≤ te.data.durationInSeconds.toInt →
      (te.data.start.toNat : Int) ≤ (Parse8601 s).toInt →
      Consistent (te.setStopString Parse8601 s)) ∧
    (∀ te te', Consistent te → Relation.ReflTransGen (EditStep Parse8601 ParseDurationString) te te' →
      (te'.data.stop = 0 ↔ te'.data.durationInSeconds.toInt < 0)) :=
  ⟨consistent_setStartString Parse8601, fun te s now => consistent_setDurationString _ now te s,
    fun te now at_ => consistent_stopAt now at_ te, consistent_setStopString Parse8601,
    fun _ _ h hr => (EditStep.run_consistent h hr).stop_eq_zero_iff⟩

/-- A running entry started at 100 and stopped through `StopAt(150)` by a run of edits. -/
theorem edits_keep_running_rule_stopAt :
    Consistent { data := { start := 100, durationInSeconds := -100 } } ∧
    ∃ te', stopAt 0 { data := { start := 100, durationInSeconds := -100 } } 150 = .ok te' ∧
      0 < te'.data.durationInSeconds.toInt ∧ Consistent te' :=
  ⟨by decide, (edits_keep_running_rule (fun _ => 0) (fun _ => 0)).2.2.1 _ 0 150 (by decide)
    (by decide) (by decide)⟩

/-- A stop string on a running entry, a stop string before the start of a stopped entry, and a
duration string that wraps `Start + seconds` around `2^64` each break the rule. -/
theorem edits_break_running_rule :
    (Consistent { data := { start := 100, durationInSeconds := -100 } } ∧
      ¬ Consistent (setStopString (fun _ => 200)
        { data := { start := 100, durationInSeconds := -100 } } "")) ∧
    (Consistent { data := { start := 100, stop := 150, durationInSeconds := 50 } } ∧
      ¬ Consistent (setStopString (fun _ => 50)
        { data := { start := 100, stop := 150, durationInSeconds := 50 } } "")) ∧
    (Consistent { data := { start := -1, stop := -1 } } ∧
      ¬ Consistent (setDurationString (fun _ => 5) 10 { data := { start := -1, stop := -1 } } "")) := by
  decide

end TimeEntry

end Kopsik
