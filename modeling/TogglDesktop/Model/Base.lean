import Mathlib.Data.List.Basic
import Mathlib.Data.String.Basic

namespace Poco

/-- `Poco::Int64`: a 64-bit word read as a two's complement integer. -/
abbrev Int64 := BitVec 64

/-- `Poco::UInt64`: a 64-bit word read as an unsigned integer. C++ converts between the two
integer types without touching the bits, so both are the same word here. -/
abbrev UInt64 := BitVec 64

end Poco

namespace Kopsik
set_option autoImplicit true

/-- `kopsik::error`: an error text, empty on success. -/
abbrev error := String

/-- `kopsik::noError`. -/
def noError : error := ""

/-- The C++ exceptions a call can raise: a store fault (the `Poco::Data` exceptions), a failed
`poco_assert` (`Poco::AssertionViolationException`), a conversion of an empty
`Poco::Dynamic::Var` (`Poco::InvalidAccessException`), or a conversion of a value the target
type cannot hold (`Poco::RangeException`). -/
inductive Exception
  | sql (message : String)
  | assertion (what : String)
  | invalidAccess (message : String)
  | range (message : String)
  deriving DecidableEq, Repr

/-- `Poco::Exception::displayText`: the exception's name, then its message. -/
def Exception.displayText : Exception → String
  | .sql message => "SQL error: " ++ message
  | .assertion what => "Assertion violation: " ++ what
  | .invalidAccess message => "Invalid access: " ++ message
  | .range message => "Out of range: " ++ message

theorem Exception.displayText_ne_noError (e : Exception) : e.displayText ≠ noError := by
  cases e <;> simp [Exception.displayText, noError, String.ext_iff]

/-- Modelled from the spec: the identity contract every entity kind shares (`BaseModel`,
whose header is not among the sources). -/
structure BaseModel where
  localID : Poco.Int64 := 0
  id : Poco.UInt64 := 0
  guid : String := ""
  uid : Poco.UInt64 := 0
  dirty : Bool := false
  deletedAt : Poco.UInt64 := 0
  updatedAt : Poco.UInt64 := 0
  isMarkedAsDeletedOnServer : Bool := false
  deriving DecidableEq, Repr

/-- An entity: its `BaseModel` part and the fields of its own kind. -/
structure Entity (D : Type) where
  base : BaseModel := {}
  data : D
  deriving DecidableEq, Repr

namespace Entity

/-- Modelled from the spec: `NeedsToBeSaved() := LocalID == 0 OR Dirty`. -/
def needsToBeSaved (e : Entity D) : Bool := e.base.localID = 0 || e.base.dirty

def setDirty (e : Entity D) : Entity D := { e with base := { e.base with dirty := true } }

def clearDirty (e : Entity D) : Entity D := { e with base := { e.base with dirty := false } }

def setLocalID (e : Entity D) (value : Poco.Int64) : Entity D :=
  { e with base := { e.base with localID := value } }

/-- The rule every setter follows: assign and mark dirty only when the value changes. -/
def setField [DecidableEq α] (get : Entity D → α) (put : Entity D → α → Entity D)
    (e : Entity D) (value : α) : Entity D :=
  if get e ≠ value then (put e value).setDirty else e

/-- A compare-and-mark-dirty setter of one field of the kind's own record. -/
def setDataField [DecidableEq α] (get : D → α) (put : D → α → D) (e : Entity D) (value : α) :
    Entity D :=
  setField (fun e => get e.data) (fun e v => { e with data := put e.data v }) e value

/-- Modelled from the spec: `SetUID`, a compare-and-mark-dirty setter. -/
def setUID (e : Entity D) (value : Poco.UInt64) : Entity D :=
  setField (·.base.uid) (fun e v => { e with base := { e.base with uid := v } }) e value

/-- Modelled from the spec: `SetID`, a compare-and-mark-dirty setter. -/
def setID (e : Entity D) (value : Poco.UInt64) : Entity D :=
  setField (·.base.id) (fun e v => { e with base := { e.base with id := v } }) e value

/-- Modelled from the spec: `SetGUID`, a compare-and-mark-dirty setter. -/
def setGUID (e : Entity D) (value : String) : Entity D :=
  setField (·.base.guid) (fun e v => { e with base := { e.base with guid := v } }) e value

/-- Modelled from the spec: `SetDeletedAt`, a compare-and-mark-dirty setter. -/
def setDeletedAt (e : Entity D) (value : Poco.UInt64) : Entity D :=
  setField (·.base.deletedAt) (fun e v => { e with base := { e.base with deletedAt := v } }) e value

/-- Modelled from the spec: `SetUpdatedAt`, a compare-and-mark-dirty setter. -/
def setUpdatedAt (e : Entity D) (value : Poco.UInt64) : Entity D :=
  setField (·.base.updatedAt) (fun e v => { e with base := { e.base with updatedAt := v } }) e value

/-- Modelled from the spec: `EnsureGUID` with the GUID the generator hands out next. -/
def ensureGUID (e : Entity D) (fresh : String) : Entity D :=
  if e.base.guid = "" then { e with base := { e.base with guid := fresh, dirty := true } } else e

@[simp] theorem setDirty_base (e : Entity D) : e.setDirty.base = { e.base with dirty := true } :=
  rfl
@[simp] theorem setDirty_data (e : Entity D) : e.setDirty.data = e.data := rfl
@[simp] theorem clearDirty_base (e : Entity D) :
    e.clearDirty.base = { e.base with dirty := false } := rfl
@[simp] theorem clearDirty_data (e : Entity D) : e.clearDirty.data = e.data := rfl
@[simp] theorem setLocalID_base (e : Entity D) (v : Poco.Int64) :
    (e.setLocalID v).base = { e.base with localID := v } := rfl
@[simp] theorem setLocalID_data (e : Entity D) (v : Poco.Int64) :
    (e.setLocalID v).data = e.data := rfl

theorem setField_of_eq [DecidableEq α] {get : Entity D → α} {put : Entity D → α → Entity D}
    (h : get e = v) : setField get put e v = e := by
  simp [setField, h]

theorem setField_of_ne [DecidableEq α] {get : Entity D → α} {put : Entity D → α → Entity D}
    (h : get e ≠ v) : setField get put e v = (put e v).setDirty := by
  simp [setField, h]

theorem setField_eq_assign [DecidableEq α] {get : Entity D → α} {put : Entity D → α → Entity D}
    (hput : put e (get e) = e) (hd : (put e v).base.dirty = e.base.dirty) :
    setField get put e v =
      { put e v with base := { (put e v).base with dirty := e.base.dirty || decide (get e ≠ v) } } := by
  unfold setField
  split
  · simp_all [setDirty]
  · rename_i h
    rw [not_not] at h
    subst h
    rw [hput]
    simp

theorem setDataField_data [DecidableEq α] (get : D → α) (put : D → α → D) (e : Entity D)
    (v : α) : (setDataField get put e v).data = if get e.data ≠ v then put e.data v else e.data := by
  unfold setDataField setField; split <;> rfl

theorem setDataField_base [DecidableEq α] (get : D → α) (put : D → α → D) (e : Entity D)
    (v : α) : (setDataField get put e v).base =
      if get e.data ≠ v then { e.base with dirty := true } else e.base := by
  unfold setDataField setField; split <;> rfl

theorem setDataField_data_eq [DecidableEq α] {get : D → α} {put : D → α → D}
    (hput : ∀ d, put d (get d) = d) (e : Entity D) (v : α) :
    (setDataField get put e v).data = put e.data v := by
  rw [setDataField_data]; split
  · rfl
  · rename_i h; rw [not_not] at h; rw [← h, hput]

@[simp] theorem setUID_uid (e : Entity D) (v : Poco.UInt64) : (e.setUID v).base.uid = v := by
  by_cases h : e.base.uid = v <;> simp [setUID, setField, h]

@[simp] theorem setUID_data (e : Entity D) (v : Poco.UInt64) : (e.setUID v).data = e.data := by
  by_cases h : e.base.uid = v <;> simp [setUID, setField, h]

theorem setUID_base (e : Entity D) (v : Poco.UInt64) :
    (e.setUID v).base = { e.base with uid := v, dirty := e.base.dirty || e.base.uid ≠ v } := by
  by_cases h : e.base.uid = v
  · subst h; simp [setUID, setField]
  · simp [setUID, setField, h]

@[simp] theorem setUID_localID (e : Entity D) (v : Poco.UInt64) :
    (e.setUID v).base.localID = e.base.localID := by simp [setUID_base]
@[simp] theorem setUID_id (e : Entity D) (v : Poco.UInt64) :
    (e.setUID v).base.id = e.base.id := by simp [setUID_base]
@[simp] theorem setUID_guid (e : Entity D) (v : Poco.UInt64) :
    (e.setUID v).base.guid = e.base.guid := by simp [setUID_base]
@[simp] theorem setUID_deletedAt (e : Entity D) (v : Poco.UInt64) :
    (e.setUID v).base.deletedAt = e.base.deletedAt := by simp [setUID_base]
@[simp] theorem setUID_updatedAt (e : Entity D) (v : Poco.UInt64) :
    (e.setUID v).base.updatedAt = e.base.updatedAt := by simp [setUID_base]
@[simp] theorem setUID_marked (e : Entity D) (v : Poco.UInt64) :
    (e.setUID v).base.isMarkedAsDeletedOnServer = e.base.isMarkedAsDeletedOnServer := by
  simp [setUID_base]

@[simp] theorem ensureGUID_data (e : Entity D) (g : String) : (e.ensureGUID g).data = e.data := by
  unfold ensureGUID; split <;> rfl

theorem ensureGUID_base (e : Entity D) (g : String) :
    (e.ensureGUID g).base = if e.base.guid = "" then { e.base with guid := g, dirty := true }
      else e.base := by
  unfold ensureGUID; split <;> rfl

end Entity

/-- Modelled from the spec: `ModelChange`, one record of a persisted mutation. -/
structure ModelChange where
  modelType : String
  changeType : String
  modelID : Poco.UInt64
  guid : String
  deriving DecidableEq, Repr

end Kopsik
