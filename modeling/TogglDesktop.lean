import TogglDesktop.Model.Base
import TogglDesktop.Model.TimeEntry
import TogglDesktop.Model.Running
import TogglDesktop.Model.Related
import TogglDesktop.Push.WebSocket
import TogglDesktop.Push.Activity
import TogglDesktop.Store.Table
import TogglDesktop.Store.Schema
import TogglDesktop.Store.Session
import TogglDesktop.Store.Save
import TogglDesktop.Store.Spec
import TogglDesktop.Store.Changes
import TogglDesktop.Store.Progress
import TogglDesktop.Store.Faults
import TogglDesktop.Store.Purge
import TogglDesktop.Store.Migrate
import TogglDesktop.Store.Load
import TogglDesktop.Store.RoundTrip
import TogglDesktop.Store.InStep
import TogglDesktop.Store.Delete
import TogglDesktop.Store.Sessions
import TogglDesktop.Store.Settings
import TogglDesktop.Store.Timeline
