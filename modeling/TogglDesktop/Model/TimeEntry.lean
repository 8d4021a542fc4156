import TogglDesktop.Model.Base

namespace Kopsik
set_option autoImplicit true

/-- The fields `TimeEntry` adds to `BaseModel`. -/
structure TimeEntryData where
  description : String := ""
  wid : Poco.UInt64 := 0
  pid : Poco.UInt64 := 0
  tid : Poco.UInt64 := 0
  billable : Bool := false
  start : Poco.UInt64 := 0
  stop : Poco.UInt64 := 0
  durationInSeconds : Poco.Int64 := 0
  duronly : Bool := false
  uiModifiedAt : Poco.UInt64 := 0
  createdWith : String := ""
  projectGUID : String := ""
  tagNames : List String := []
  deriving DecidableEq, Repr

abbrev TimeEntry := Entity TimeEntryData

namespace TimeEntry

def setDurOnly (te : TimeEntry) (value : Bool) : TimeEntry :=
  te.setDataField (·.duronly) (fun d v => { d with duronly := v }) value

def setStart (te : TimeEntry) (value : Poco.UInt64) : TimeEntry :=
  te.setDataField (·.start) (fun d v => { d with start := v }) value

def setDescription (te : TimeEntry) (value : String) : TimeEntry :=
  te.setDataField (·.description) (fun d v => { d with description := v }) value

def setCreatedWith (te : TimeEntry) (value : String) : TimeEntry :=
  te.setDataField (·.createdWith) (fun d v => { d with createdWith := v }) value

def setBillable (te : TimeEntry) (value : Bool) : TimeEntry :=
  te.setDataField (·.billable) (fun d v => { d with billable := v }) value

def setWID (te : TimeEntry) (value : Poco.UInt64) : TimeEntry :=
  te.setDataField (·.wid) (fun d v => { d with wid := v }) value

def setStop (te : TimeEntry) (value : Poco.UInt64) : TimeEntry :=
  te.setDataField (·.stop) (fun d v => { d with stop := v }) value

def setTID (te : TimeEntry) (value : Poco.UInt64) : TimeEntry :=
  te.setDataField (·.tid) (fun d v => { d with tid := v }) value

def setPID (te : TimeEntry) (value : Poco.UInt64) : TimeEntry :=
  te.setDataField (·.pid) (fun d v => { d with pid := v }) value

def setDurationInSeconds (te : TimeEntry) (value : Poco.Int64) : TimeEntry :=
  te.setDataField (·.durationInSeconds) (fun d v => { d with durationInSeconds := v }) value

def setProjectGUID (te : TimeEntry) (value : String) : TimeEntry :=
  te.setDataField (·.projectGUID) (fun d v => { d with projectGUID := v }) value

/-- Modelled from the spec: `SetUIModifiedAt`, declared in the header and following the
setter rule. -/
def setUIModifiedAt (te : TimeEntry) (value : Poco.UInt64) : TimeEntry :=
  te.setDataField (·.uiModifiedAt) (fun d v => { d with uiModifiedAt := v }) value

@[simp] theorem setStart_data (te : TimeEntry) (v : Poco.UInt64) :
    (te.setStart v).data = { te.data with start := v } :=
  Entity.setDataField_data_eq (fun _ => rfl) te v

@[simp] theorem setStop_data (te : TimeEntry) (v : Poco.UInt64) :
    (te.setStop v).data = { te.data with stop := v } :=
  Entity.setDataField_data_eq (fun _ => rfl) te v

@[simp] theorem setDurationInSeconds_data (te : TimeEntry) (v : Poco.Int64) :
    (te.setDurationInSeconds v).data = { te.data with durationInSeconds := v } :=
  Entity.setDataField_data_eq (fun _ => rfl) te v

@[simp] theorem setUIModifiedAt_data (te : TimeEntry) (v : Poco.UInt64) :
    (te.setUIModifiedAt v).data = { te.data with uiModifiedAt := v } :=
  Entity.setDataField_data_eq (fun _ => rfl) te v

/-- `TimeEntry::Tags`: the tag names, each after the first preceded by `|`. -/
def tags (te : TimeEntry) : String :=
  match te.data.tagNames with
  | [] => ""
  | t :: ts => ts.foldl (fun ss tag => ss ++ "|" ++ tag) t

/-- `std::getline(ss, tag, delim)` on the unread characters: the tag read, and the characters
left after the delimiter, or `none` once the read hit the end of the stream (`eofbit`). -/
def getline (delim : Char) : List Char → List Char × Option (List Char)
  | [] => ([], none)
  | c :: cs => if c = delim then ([], some cs) else
      let r := getline delim cs
      (c :: r.1, r.2)

theorem getline_rest_length : ∀ (cs : List Char) {rest : List Char},
    (getline d cs).2 = some rest → rest.length < cs.length
  | [], _, h => by simp [getline] at h
  | c :: cs, rest, h => by
    unfold getline at h
    split at h
    · cases h; simp
    · have := getline_rest_length cs h; simp; omega

/-- The `while (ss.good())` loop of `SetTags`: read a tag, push it, stop at the end. -/
def readTags (cs : List Char) : List String :=
  match h : (getline '|' cs).2 with
  | none => [⟨(getline '|' cs).1⟩]
  | some rest =>
    have := getline_rest_length cs h
    ⟨(getline '|' cs).1⟩ :: readTags rest
termination_by cs.length

/-- `TimeEntry::SetTags`. -/
def setTags (te : TimeEntry) (tags : String) : TimeEntry :=
  if te.tags ≠ tags then
    let names := if tags.isEmpty then [] else readTags tags.data
    ({ te with data := { te.data with tagNames := names } } : TimeEntry).setDirty
  else te

theorem getline_tag (d : Char) : ∀ cs : List Char, d ∉ (getline d cs).1
  | [] => by simp [getline]
  | c :: cs => by
    by_cases hc : c = d
    · simp [getline, hc]
    · simpa [getline, hc, Ne.symm hc] using getline_tag d cs

theorem getline_none (d : Char) : ∀ cs : List Char, (getline d cs).2 = none → (getline d cs).1 = cs
  | [], _ => rfl
  | c :: cs, h => by
    by_cases hc : c = d
    · simp [getline, hc] at h
    · simp only [getline, hc, if_false] at h ⊢
      rw [getline_none d cs h]

theorem getline_some (d : Char) : ∀ cs : List Char, (getline d cs).2 = some rest →
    cs = (getline d cs).1 ++ d :: rest
  | [], h => by simp [getline] at h
  | c :: cs, h => by
    by_cases hc : c = d
    · simp_all [getline]
    · simp only [getline, hc, if_false] at h ⊢
      rw [List.cons_append, ← getline_some d cs h]

theorem readTags_of_none (h : (getline '|' cs).2 = none) : readTags cs = [⟨(getline '|' cs).1⟩] := by
  rw [readTags]; split <;> simp_all

theorem readTags_of_some (h : (getline '|' cs).2 = some rest) :
    readTags cs = ⟨(getline '|' cs).1⟩ :: readTags rest := by
  rw [readTags]; split <;> simp_all

theorem getline_tag_beq (cs : List Char) : ∀ x ∈ (getline '|' cs).1, ¬ (x == '|') = true := by
  intro x hx hp
  rw [beq_iff_eq] at hp
  exact getline_tag '|' cs (hp ▸ hx)

theorem readTags_eq_splitOn (cs : List Char) : readTags cs = (cs.splitOn '|').map String.mk := by
  induction cs using readTags.induct with
  | case1 cs h =>
    have hcs := getline_none '|' cs h
    have hs : cs.splitOn '|' = [cs] :=
      List.splitOnP_eq_single _ _ (hcs ▸ getline_tag_beq cs)
    rw [readTags_of_none h, hs, hcs]
    rfl
  | case2 cs rest h _ ih =>
    have hcs := getline_some '|' cs h
    have hs : cs.splitOn '|' = (getline '|' cs).1 :: rest.splitOn '|' := by
      rw [List.splitOn]; conv_lhs => rw [hcs]
      exact List.splitOnP_first _ _ (getline_tag_beq cs) '|' (beq_self_eq_true _) rest
    rw [readTags_of_some h, ih, hs]
    rfl

theorem intercalate_cons (c : α) (x : List α) (xs : List (List α)) :
    [c].intercalate (x :: xs) = x ++ (xs.map (c :: ·)).flatten := by
  induction xs generalizing x with
  | nil => simp [List.intercalate]
  | cons y ys ih =>
    have hy := ih y
    simp only [List.intercalate] at hy ⊢
    simp [List.intersperse_cons₂, hy]

theorem foldl_join_data (acc : String) (ts : List String) :
    (ts.foldl (fun ss tag => ss ++ "|" ++ tag) acc).data =
      acc.data ++ (ts.map (fun t => '|' :: t.data)).flatten := by
  induction ts generalizing acc with
  | nil => simp
  | cons t ts ih => simp [ih]

theorem tags_data (te : TimeEntry) :
    te.tags.data = ['|'].intercalate (te.data.tagNames.map String.data) := by
  unfold tags
  split <;> rename_i h
  · rw [h]; rfl
  · simp_all [foldl_join_data, intercalate_cons, Function.comp_def]

theorem tags_setTags (te : TimeEntry) (s : String) : (te.setTags s).tags = s := by
  unfold setTags
  split
  · apply String.ext
    rw [tags_data]
    split <;> rename_i hs
    · simp [(String.isEmpty_iff s).1 hs]; rfl
    · simp [readTags_eq_splitOn, Function.comp_def, List.intercalate_splitOn]
  · simp_all

theorem setTags_base (te : TimeEntry) (s : String) :
    (te.setTags s).base = if te.tags = s then te.base else { te.base with dirty := true } := by
  unfold setTags; split <;> simp_all

/-- `Tags` and `SetTags` are inverse codecs: `SetTags s` makes `Tags()` read back `s` and
marks the entry dirty exactly when that changed it, and reading back the tag string of
non-empty names without `|` on a fresh entry gives the names back. -/
theorem setTags_roundTrip :
    (∀ (te : TimeEntry) (s : String), (te.setTags s).tags = s ∧
      (te.setTags s).base = if te.tags = s then te.base else { te.base with dirty := true }) ∧
    (∀ names : List String, (∀ t ∈ names, t ≠ "" ∧ '|' ∉ t.data) →
      ∀ e f : TimeEntry, e.data.tagNames = names → f.data.tagNames = [] →
        (f.setTags e.tags).data.tagNames = names) := by
  refine ⟨fun te s => ⟨tags_setTags te s, setTags_base te s⟩, ?_⟩
  intro names hnames e f he hf
  have hf' : f.tags = "" := by rw [String.ext_iff, tags_data, hf]; rfl
  cases names with
  | nil =>
    have he' : e.tags = "" := by rw [String.ext_iff, tags_data, he]; rfl
    rw [setTags, if_neg (by rw [hf', he']; exact not_not.2 rfl)]; exact hf
  | cons t ts =>
    have hne : e.tags ≠ "" := fun h => (hnames t (List.mem_cons_self _ _)).1 <| by
      rw [String.ext_iff, tags_data, he, List.map_cons, intercalate_cons] at h
      exact String.ext (List.append_eq_nil.1 h).1
    have hsplit : (['|'].intercalate ((t :: ts).map String.data)).splitOn '|' =
        (t :: ts).map String.data :=
      List.splitOn_intercalate _ '|' (by simpa using fun l hl => (hnames l hl).2) (by simp)
    simp only [setTags, hf', Ne.symm hne, ne_eq, not_false_eq_true, if_true,
      (String.isEmpty_iff _).not.2 hne, Bool.false_eq_true, if_false, Entity.setDirty_data]
    rw [readTags_eq_splitOn, tags_data, he, hsplit]
    simp [Function.comp_def]

/-- The names `a` and `b` survive the save path and the load path. -/
theorem setTags_roundTrip_ab : (∀ t ∈ ["a", "b"], t ≠ "" ∧ '|' ∉ t.data) ∧
    (setTags { data := {} } (tags { data := { tagNames := ["a", "b"] } })).data.tagNames =
      ["a", "b"] :=
  ⟨by decide, setTags_roundTrip.2 _ (by decide) _ _ rfl rfl⟩

/-- `TimeEntry::SetStopString`; `Parse8601` is `Formatter::Parse8601`. -/
def setStopString (Parse8601 : String → Poco.Int64) (te : TimeEntry) (value : String) :
    TimeEntry :=
  let stop := Parse8601 value
  let te := if 0 ≤ te.data.durationInSeconds.toInt then
      te.setDurationInSeconds (stop - te.data.start) else te
  te.setStop stop

/-- `TimeEntry::SetStartString`. -/
def setStartString (Parse8601 : String → Poco.Int64) (te : TimeEntry) (value : String) :
    TimeEntry :=
  let start := Parse8601 value
  let te := if te.data.durationInSeconds.toInt < 0 then te.setDurationInSeconds (-start)
    else te.setStop (start + te.data.durationInSeconds)
  te.setStart start

/-- `TimeEntry::SetDurationString`; `ParseDurationString` returns a C `int`, and `now` is
what `time(0)` returns. -/
def setDurationString (ParseDurationString : String → BitVec 32) (now : Poco.Int64)
    (te : TimeEntry) (value : String) : TimeEntry :=
  let seconds := ParseDurationString value
  if te.data.durationInSeconds.toInt < 0 then
    let start := now - seconds.signExtend 64
    (te.setStart start).setDurationInSeconds (-start)
  else
    let te := te.setDurationInSeconds (seconds.signExtend 64)
    te.setStop (te.data.start + seconds.signExtend 64)

/-- `TimeEntry::StopAt`, whose two `poco_assert`s raise. -/
def stopAt (now : Poco.Int64) (te : TimeEntry) (at_ : Poco.Int64) : Except Exception TimeEntry := do
  if at_ = 0 then throw (.assertion "at")
  let te := te.setDurationInSeconds (at_ + te.data.durationInSeconds)
  if ¬ 0 < te.data.durationInSeconds.toInt then throw (.assertion "DurationInSeconds() > 0")
  return (te.setStop at_).setUIModifiedAt now

end TimeEntry

end Kopsik
