import TogglDesktop.Model.TimeEntry

namespace Kopsik
set_option autoImplicit true

structure WorkspaceData where
  name : String := ""
  premium : Bool := false
  deriving DecidableEq, Repr

structure ClientData where
  name : String := ""
  wid : Poco.UInt64 := 0
  deriving DecidableEq, Repr

structure ProjectData where
  name : String := ""
  wid : Poco.UInt64 := 0
  cid : Poco.UInt64 := 0
  color : String := ""
  active : Bool := false
  billable : Bool := false
  deriving DecidableEq, Repr

structure TaskData where
  name : String := ""
  wid : Poco.UInt64 := 0
  pid : Poco.UInt64 := 0
  deriving DecidableEq, Repr

structure TagData where
  name : String := ""
  wid : Poco.UInt64 := 0
  deriving DecidableEq, Repr

abbrev Workspace := Entity WorkspaceData
abbrev Client := Entity ClientData
abbrev Project := Entity ProjectData
abbrev Task := Entity TaskData
abbrev Tag := Entity TagData

/-- `user->related`: the collections a user owns. -/
structure RelatedData where
  workspaces : List Workspace := []
  clients : List Client := []
  projects : List Project := []
  tasks : List Task := []
  tags : List Tag := []
  timeEntries : List TimeEntry := []
  deriving DecidableEq, Repr

/-- The fields `User` adds to `BaseModel`; the login e-mail and password are never saved. -/
structure UserData where
  apiToken : String := ""
  defaultWID : Poco.UInt64 := 0
  since : Poco.UInt64 := 0
  fullname : String := ""
  email : String := ""
  recordTimeline : Bool := false
  storeStartAndStopTime : Bool := false
  related : RelatedData := {}
  deriving DecidableEq, Repr

abbrev User := Entity UserData

namespace Workspace
def setName (m : Workspace) (value : String) : Workspace :=
  m.setDataField (·.name) (fun d v => { d with name := v }) value
def setPremium (m : Workspace) (value : Bool) : Workspace :=
  m.setDataField (·.premium) (fun d v => { d with premium := v }) value
end Workspace

namespace Client
def setName (m : Client) (value : String) : Client :=
  m.setDataField (·.name) (fun d v => { d with name := v }) value
def setWID (m : Client) (value : Poco.UInt64) : Client :=
  m.setDataField (·.wid) (fun d v => { d with wid := v }) value
end Client

namespace Project
def setName (m : Project) (value : String) : Project :=
  m.setDataField (·.name) (fun d v => { d with name := v }) value
def setWID (m : Project) (value : Poco.UInt64) : Project :=
  m.setDataField (·.wid) (fun d v => { d with wid := v }) value
def setCID (m : Project) (value : Poco.UInt64) : Project :=
  m.setDataField (·.cid) (fun d v => { d with cid := v }) value
def setColor (m : Project) (value : String) : Project :=
  m.setDataField (·.color) (fun d v => { d with color := v }) value
def setActive (m : Project) (value : Bool) : Project :=
  m.setDataField (·.active) (fun d v => { d with active := v }) value
def setBillable (m : Project) (value : Bool) : Project :=
  m.setDataField (·.billable) (fun d v => { d with billable := v }) value
end Project

namespace Task
def setName (m : Task) (value : String) : Task :=
  m.setDataField (·.name) (fun d v => { d with name := v }) value
def setWID (m : Task) (value : Poco.UInt64) : Task :=
  m.setDataField (·.wid) (fun d v => { d with wid := v }) value
def setPID (m : Task) (value : Poco.UInt64) : Task :=
  m.setDataField (·.pid) (fun d v => { d with pid := v }) value
end Task

namespace Tag
def setName (m : Tag) (value : String) : Tag :=
  m.setDataField (·.name) (fun d v => { d with name := v }) value
def setWID (m : Tag) (value : Poco.UInt64) : Tag :=
  m.setDataField (·.wid) (fun d v => { d with wid := v }) value
end Tag

namespace User
def setAPIToken (m : User) (value : String) : User :=
  m.setDataField (·.apiToken) (fun d v => { d with apiToken := v }) value
def setDefaultWID (m : User) (value : Poco.UInt64) : User :=
  m.setDataField (·.defaultWID) (fun d v => { d with defaultWID := v }) value
def setSince (m : User) (value : Poco.UInt64) : User :=
  m.setDataField (·.since) (fun d v => { d with since := v }) value
def setFullname (m : User) (value : String) : User :=
  m.setDataField (·.fullname) (fun d v => { d with fullname := v }) value
def setEmail (m : User) (value : String) : User :=
  m.setDataField (·.email) (fun d v => { d with email := v }) value
def setRecordTimeline (m : User) (value : Bool) : User :=
  m.setDataField (·.recordTimeline) (fun d v => { d with recordTimeline := v }) value
def setStoreStartAndStopTime (m : User) (value : Bool) : User :=
  m.setDataField (·.storeStartAndStopTime) (fun d v => { d with storeStartAndStopTime := v }) value
end User

/-- The entity kinds the store keeps a table for. -/
inductive Kind
  | workspace | client | project | task | tag | timeEntry
  deriving DecidableEq, Repr

/-- The fields each kind adds to `BaseModel`. -/
abbrev Kind.Data : Kind → Type
  | .workspace => WorkspaceData
  | .client => ClientData
  | .project => ProjectData
  | .task => TaskData
  | .tag => TagData
  | .timeEntry => TimeEntryData

/-- Modelled from the spec: each kind's stable name token, `ModelName()` (only the workspace
header, which says `"workspace"`, is among the sources). -/
def Kind.modelName : Kind → String
  | .workspace => "workspace"
  | .client => "client"
  | .project => "project"
  | .task => "task"
  | .tag => "tag"
  | .timeEntry => "time_entry"

/-- Modelled from the spec: `User::ModelName()`. -/
def User.modelName : String := "user"

namespace RelatedData

/-- The collection of one kind. -/
def get (r : RelatedData) : (k : Kind) → List (Entity k.Data)
  | .workspace => r.workspaces
  | .client => r.clients
  | .project => r.projects
  | .task => r.tasks
  | .tag => r.tags
  | .timeEntry => r.timeEntries

/-- Replaces the collection of one kind. -/
def set (r : RelatedData) : (k : Kind) → List (Entity k.Data) → RelatedData
  | .workspace, l => { r with workspaces := l }
  | .client, l => { r with clients := l }
  | .project, l => { r with projects := l }
  | .task, l => { r with tasks := l }
  | .tag, l => { r with tags := l }
  | .timeEntry, l => { r with timeEntries := l }

@[simp] theorem get_set (r : RelatedData) (k : Kind) (l : List (Entity k.Data)) :
    (r.set k l).get k = l := by
  cases k <;> rfl

@[simp] theorem get_set_ne (r : RelatedData) {j k : Kind} (h : j ≠ k) (l : List (Entity k.Data)) :
    (r.set k l).get j = r.get j := by
  cases j <;> cases k <;> first | rfl | exact absurd rfl h

@[simp] theorem set_get (r : RelatedData) (k : Kind) : r.set k (r.get k) = r := by
  cases k <;> rfl

end RelatedData

end Kopsik
