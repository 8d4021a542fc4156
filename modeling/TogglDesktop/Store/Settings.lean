import TogglDesktop.Store.Sessions

namespace Kopsik
set_option autoImplicit true

/-! The `settings` table. The `settings` migration creates it with the proxy columns and
`use_idle_detection`, `settings.update_channel` adds `update_channel` with the default `stable`,
and `settings.default` inserts one row when the table has none. `SaveSettings` and
`SaveUpdateChannel` are `update` statements with no `where`, so each rewrites every row, its own
columns only; `LoadSettings` and `LoadUpdateChannel` read the first row into the caller's
variables. `SaveUpdateChannel` refuses any channel but `stable`, `beta` and `dev` before it runs
a statement. The declaration of `Proxy` is not among the sources: its four fields stand here as
plain values. -/

/-- A `settings` row, with the columns' defaults. -/
structure SettingsRow where
  useProxy : Bool := false
  proxyHost : Option String := none
  proxyPort : Option Poco.Int64 := none
  proxyUsername : Option String := none
  proxyPassword : Option String := none
  useIdleDetection : Bool := true
  updateChannel : String := "stable"
  deriving DecidableEq, Repr

/-- The values `LoadSettings` reads and `SaveSettings` writes: `use_proxy`, the `host`, `port`,
`username` and `password` of the `Proxy`, and `use_idle_detection`. -/
structure ProxySettings where
  useProxy : Bool
  host : String
  port : Poco.Int64
  username : String
  password : String
  useIdleDetection : Bool
  deriving DecidableEq, Repr

/-- What an `update` statement with no `where` does to a table. -/
def Table.mapRows (t : Table R) (f : R → R) : Table R :=
  ⟨t.rows.map fun p => (p.1, f p.2), by rw [List.map_map]; exact t.nodup⟩

/-- The statement of the `settings.default` migration: `INSERT INTO settings(update_channel)
SELECT 'stable' WHERE NOT EXISTS (SELECT 1 FROM settings LIMIT 1)`, the other columns taking their
defaults and the row the first rowid. -/
def settingsDefault (s : Table SettingsRow) : Table SettingsRow :=
  if s.rows = [] then .single 1 {} else s

/-- The `try` block of `SaveSettings` and `SaveUpdateChannel`: an `update settings set ...` with
no `where`, then `last_error`. -/
def updateSettings (wasDoing : String) (f : SettingsRow → SettingsRow)
    (settings : Table SettingsRow) : DB (error × Table SettingsRow) :=
  tryCatch
    (do
      sqlCall
      let err ← lastError wasDoing
      return (err, settings.mapRows f))
    fun exc => pure (exc.displayText, settings)

/-- The `try` block of `LoadSettings` and `LoadUpdateChannel`: a `select ... from settings` with
`limit(1)` into the caller's variables, which keep their values when the table has no row. -/
def selectSettings (wasDoing : String) (read : SettingsRow → α) (into : α)
    (settings : Table SettingsRow) : DB (error × α) :=
  tryCatch
    (do
      sqlCall
      let err ← lastError wasDoing
      return (err, (settings.rows.head?.map (read ·.2)).getD into))
    fun exc => pure (exc.displayText, into)

/-- `Database::SaveUpdateChannel`. -/
def saveUpdateChannel (updateChannel : String) (settings : Table SettingsRow) :
    DB (error × Table SettingsRow) :=
  if updateChannel ≠ "stable" ∧ updateChannel ≠ "beta" ∧ updateChannel ≠ "dev" then
    pure ("Invalid update channel", settings)
  else updateSettings "SaveUpdateChannel" (fun r => { r with updateChannel }) settings

/-- `Database::LoadUpdateChannel`. -/
def loadUpdateChannel (updateChannel : String) (settings : Table SettingsRow) :
    DB (error × String) :=
  selectSettings "LoadUpdateChannel" (·.updateChannel) updateChannel settings

/-- The row's columns as `LoadSettings` reads them: `into` a NULL column gives the type's
default. -/
def SettingsRow.proxy (r : SettingsRow) : ProxySettings :=
  ⟨r.useProxy, r.proxyHost.getD "", r.proxyPort.getD 0, r.proxyUsername.getD "",
    r.proxyPassword.getD "", r.useIdleDetection⟩

/-- `Database::SaveSettings`. -/
def saveSettings (v : ProxySettings) (settings : Table SettingsRow) :
    DB (error × Table SettingsRow) :=
  updateSettings "SaveSettings" (fun r => { r with
    useProxy := v.useProxy
    proxyHost := some v.host
    proxyPort := some v.port
    proxyUsername := some v.username
    proxyPassword := some v.password
    useIdleDetection := v.useIdleDetection }) settings

/-- `Database::LoadSettings`. -/
def loadSettings (v : ProxySettings) (settings : Table SettingsRow) : DB (error × ProxySettings) :=
  selectSettings "LoadSettings" SettingsRow.proxy v settings

/-- The channels `SaveUpdateChannel` accepts. -/
def ValidChannel (c : String) : Prop := c = "stable" ∨ c = "beta" ∨ c = "dev"

instance (c : String) : Decidable (ValidChannel c) := inferInstanceAs (Decidable (_ ∨ _ ∨ _))

/-- `settings.default` leaves at least one row, and the rows there were; run again it changes
nothing. -/
theorem settingsDefault_rows (s : Table SettingsRow) :
    (settingsDefault s).rows ≠ [] ∧ (s.rows = [] → (settingsDefault s).rows = [(1, {})]) ∧
      (s.rows ≠ [] → settingsDefault s = s) := by
  unfold settingsDefault
  split_ifs with h
  · exact ⟨List.cons_ne_nil _ _, fun _ => rfl, fun h' => absurd h h'⟩
  · exact ⟨h, fun h' => absurd h' h, fun _ => rfl⟩

theorem settingsDefault_idem (s : Table SettingsRow) :
    settingsDefault (settingsDefault s) = settingsDefault s :=
  (settingsDefault_rows _).2.2 (settingsDefault_rows s).1

section Spec

variable {w : World}

theorem updateSettings_eq {Q : error × Table SettingsRow → World → Prop}
    {E : Exception → World → Prop} (wasDoing : String) (f : SettingsRow → SettingsRow)
    (settings : Table SettingsRow) :
    wp (updateSettings wasDoing f settings) Q E w ↔
      if w.faults.head? = some true then
        Q ((Exception.sql "disk I/O error").displayText, settings) w.fault
      else Q (noError, settings.mapRows f) w.pass := by
  simp only [updateSettings, wp_tryCatch, wp_bind, wp_sqlCall, wp_lastError, wp_pure]
  split_ifs <;> simp_all [noError]

theorem selectSettings_eq {Q : error × α → World → Prop} {E : Exception → World → Prop}
    (wasDoing : String) (read : SettingsRow → α) (into : α) (settings : Table SettingsRow) :
    wp (selectSettings wasDoing read into settings) Q E w ↔
      if w.faults.head? = some true then Q ((Exception.sql "disk I/O error").displayText, into) w.fault
      else Q (noError, (settings.rows.head?.map (read ·.2)).getD into) w.pass := by
  simp only [selectSettings, wp_tryCatch, wp_bind, wp_sqlCall, wp_lastError, wp_pure]
  split_ifs <;> simp_all [noError]

theorem updateSettings_run (h : (updateSettings wasDoing f s).run w = .ok (err, s') w') :
    s' = if err = noError then s.mapRows f else s := by
  refine wp_ok ((updateSettings_eq (Q := fun r _ => r.2 = if r.1 = noError then s.mapRows f
    else s) (E := fun _ _ => False) wasDoing f s).2 ?_) h
  by_cases hf : w.faults.head? = some true
  · simp [hf, Exception.displayText_ne_noError]
  · simp [hf]

theorem selectSettings_run (hf : w.faults.head? ≠ some true) (wasDoing : String)
    (read : SettingsRow → α) (into : α) (s : Table SettingsRow) :
    (selectSettings wasDoing read into s).run w =
      .ok (noError, (s.rows.head?.map (read ·.2)).getD into) w.pass := by
  obtain ⟨r, w', hrun, rfl, rfl⟩ := exists_ok_of_wp
    ((selectSettings_eq (w := w) (Q := fun r w' => r = (noError, (s.rows.head?.map (read ·.2)).getD into) ∧
      w' = w.pass) (E := fun _ _ => False) wasDoing read into s).2 (by simp [hf]))
  exact hrun

theorem saveUpdateChannel_run (h : (saveUpdateChannel c s).run w = .ok (err, s') w') :
    (err = noError → ValidChannel c) ∧
      s' = if err = noError then s.mapRows (fun r => { r with updateChannel := c }) else s := by
  unfold saveUpdateChannel at h
  split_ifs at h with hc
  · cases h
    exact ⟨fun h => absurd h (by simp [noError]), by simp [noError]⟩
  · exact ⟨fun _ => by unfold ValidChannel; tauto, updateSettings_run h⟩

end Spec

/-! ### The settings over runs -/

/-- A call on the settings table, with its arguments and the error it returned. -/
inductive SettingsCall
  | saveUpdateChannel (c : String) (err : error)
  | loadUpdateChannel
  | saveSettings (v : ProxySettings) (err : error)
  | loadSettings

/-- The call run on the table `s`, leaving `s'`, with any arguments and any fault schedule. -/
inductive SettingsCall.Runs : SettingsCall → Table SettingsRow → Table SettingsRow → Prop
  | saveUpdateChannel (h : (Kopsik.saveUpdateChannel c s).run w = .ok (err, s') w') :
      Runs (.saveUpdateChannel c err) s s'
  | loadUpdateChannel (h : (Kopsik.loadUpdateChannel x s).run w = .ok r w') :
      Runs .loadUpdateChannel s s
  | saveSettings (h : (Kopsik.saveSettings v s).run w = .ok (err, s') w') :
      Runs (.saveSettings v err) s s'
  | loadSettings (h : (Kopsik.loadSettings v s).run w = .ok r w') : Runs .loadSettings s s

/-- The update channel the calls are for: the one of the last `SaveUpdateChannel` that returned
`noError`. -/
def SettingsCall.channel : SettingsCall → String → String
  | .saveUpdateChannel c err, a => if err = noError then c else a
  | _, a => a

/-- The proxy settings the calls are for: those of the last `SaveSettings` that returned
`noError`. -/
def SettingsCall.proxy : SettingsCall → ProxySettings → ProxySettings
  | .saveSettings v err, p => if err = noError then v else p
  | _, p => p

/-- A call, moving the table and the channel together. -/
def ChannelStep (x y : Table SettingsRow × String) : Prop :=
  ∃ call : SettingsCall, call.Runs x.1 y.1 ∧ y.2 = call.channel x.2

/-- A call, moving the table and the proxy settings together. -/
def ProxyStep (x y : Table SettingsRow × ProxySettings) : Prop :=
  ∃ call : SettingsCall, call.Runs x.1 y.1 ∧ y.2 = call.proxy x.2

/-- The table has a row, and every row reads as `a`. -/
structure Holds (read : SettingsRow → α) (s : Table SettingsRow) (a : α) : Prop where
  rows : ∀ p ∈ s.rows, read p.2 = a
  nonempty : s.rows ≠ []

/-- The `settings.default` migration on a table whose rows read as the row it inserts: the
table it leaves reads so too. -/
theorem settingsDefault_holds {read : SettingsRow → α} (h₀ : ∀ p ∈ s₀.rows, read p.2 = read {}) :
    Holds read (settingsDefault s₀) (read {}) := by
  refine ⟨fun p hp => ?_, (settingsDefault_rows s₀).1⟩
  by_cases he : s₀.rows = []
  · rw [(settingsDefault_rows s₀).2.1 he, List.mem_singleton] at hp
    rw [hp]
  · rw [(settingsDefault_rows s₀).2.2 he] at hp
    exact h₀ p hp

theorem Holds.mapRows {read : SettingsRow → α} {f : SettingsRow → SettingsRow} {g : α → α}
    (h : Holds read s a) (hf : ∀ r, read (f r) = g (read r)) :
    Holds read (s.mapRows f) (g a) := by
  refine ⟨fun p hp => ?_, by simpa [Table.mapRows] using h.nonempty⟩
  obtain ⟨q, hq, rfl⟩ := List.mem_map.1 hp
  rw [hf, h.rows q hq]

theorem Holds.select {read : SettingsRow → α} {a : α} (h : Holds read s a) (hf : w.faults.head? ≠ some true) (wasDoing : String)
    (into : α) : (selectSettings wasDoing read into s).run w = .ok (noError, a) w.pass := by
  obtain ⟨p, ps, hps⟩ := List.exists_cons_of_ne_nil h.nonempty
  rw [selectSettings_run hf, hps, List.head?_cons, Option.map_some', Option.getD_some,
    h.rows p (hps ▸ List.mem_cons_self _ _)]

theorem Holds.channel_step {call : SettingsCall} (h : Holds (·.updateChannel) s a)
    (hv : ValidChannel a) (hc : call.Runs s s') : Holds (·.updateChannel) s' (call.channel a) ∧
      ValidChannel (call.channel a) := by
  cases hc with
  | saveUpdateChannel hrun =>
    obtain ⟨hvalid, rfl⟩ := saveUpdateChannel_run hrun
    simp only [SettingsCall.channel]
    split_ifs with he
    · exact ⟨h.mapRows (g := fun _ => _) fun _ => rfl, hvalid he⟩
    · exact ⟨h, hv⟩
  | saveSettings hrun =>
    rw [updateSettings_run hrun]
    split_ifs
    · exact ⟨h.mapRows (g := id) fun _ => rfl, hv⟩
    · exact ⟨h, hv⟩
  | loadUpdateChannel | loadSettings => exact ⟨h, hv⟩

theorem Holds.proxy_step {call : SettingsCall} (h : Holds SettingsRow.proxy s p)
    (hc : call.Runs s s') :
    Holds SettingsRow.proxy s' (call.proxy p) := by
  cases hc with
  | saveUpdateChannel hrun =>
    rw [(saveUpdateChannel_run hrun).2]
    split_ifs
    · exact h.mapRows (g := id) fun _ => rfl
    · exact h
  | saveSettings hrun =>
    rw [updateSettings_run hrun]
    simp only [SettingsCall.proxy]
    split_ifs
    · exact h.mapRows (g := fun _ => _) fun _ => rfl
    · exact h
  | loadUpdateChannel | loadSettings => exact h

theorem ChannelStep.run_holds (hr : Relation.ReflTransGen ChannelStep x y)
    (hx : Holds (·.updateChannel) x.1 x.2 ∧ ValidChannel x.2) :
    Holds (·.updateChannel) y.1 y.2 ∧ ValidChannel y.2 := by
  induction hr with
  | refl => exact hx
  | tail _ hbc ih =>
    obtain ⟨call, hc, hy⟩ := hbc
    rw [hy]
    exact ih.1.channel_step ih.2 hc

theorem ProxyStep.run_holds (hr : Relation.ReflTransGen ProxyStep x y)
    (hx : Holds SettingsRow.proxy x.1 x.2) : Holds SettingsRow.proxy y.1 y.2 := by
  induction hr with
  | refl => exact hx
  | tail _ hbc ih =>
    obtain ⟨call, hc, hy⟩ := hbc
    rw [hy]
    exact ih.proxy_step hc

/-- Along every run of `SaveUpdateChannel`, `LoadUpdateChannel`, `SaveSettings` and
`LoadSettings` calls, with any arguments and any fault schedule, from the table the
`settings.default` migration leaves on a table whose rows hold `stable` (the empty one the
`settings` migrations create among them), every row holds the channel of the last
`SaveUpdateChannel` that returned `noError` (`stable` before any), one of `stable`, `beta` and
`dev`; and a `LoadUpdateChannel` whose call passes returns `noError` and that channel, whatever
string it was given. -/
theorem updateChannel_runs (s₀ : Table SettingsRow)
    (h₀ : ∀ p ∈ s₀.rows, p.2.updateChannel = "stable")
    (hr : Relation.ReflTransGen ChannelStep (settingsDefault s₀, "stable") (s, a)) :
    ValidChannel a ∧ (∀ p ∈ s.rows, p.2.updateChannel = a) ∧
      ∀ (x : String) (w : World), w.faults.head? ≠ some true →
        (loadUpdateChannel x s).run w = .ok (noError, a) w.pass := by
  have hinit : Holds (·.updateChannel) (settingsDefault s₀) "stable" := settingsDefault_holds h₀
  have hs : Holds (·.updateChannel) s a ∧ ValidChannel a :=
    ChannelStep.run_holds hr ⟨hinit, show ValidChannel "stable" by decide⟩
  exact ⟨hs.2, hs.1.rows, fun x w hf => hs.1.select hf _ x⟩

/-- A save of `nightly` is refused and changes nothing; a save of `beta` then passes. -/
theorem updateChannel_runs_nightlyThenBeta :
    Relation.ReflTransGen ChannelStep (settingsDefault .empty, "stable")
      (.single 1 { updateChannel := "beta" }, "beta") ∧
      ValidChannel "beta" ∧
      (∀ p ∈ (Table.single 1 ({ updateChannel := "beta" } : SettingsRow)).rows,
        p.2.updateChannel = "beta") ∧
      ∀ (x : String) (w : World), w.faults.head? ≠ some true →
        (loadUpdateChannel x (.single 1 { updateChannel := "beta" })).run w =
          .ok (noError, "beta") w.pass := by
  have hr : Relation.ReflTransGen ChannelStep (settingsDefault .empty, "stable")
      (.single 1 { updateChannel := "beta" }, "beta") :=
    .tail (.single ⟨_, @SettingsCall.Runs.saveUpdateChannel "nightly" _ {} _ _ {} rfl, rfl⟩)
      ⟨_, @SettingsCall.Runs.saveUpdateChannel "beta" _ {} _ _ ({} : World).pass rfl, rfl⟩
  exact ⟨hr, updateChannel_runs .empty (fun _ hp => absurd hp (List.not_mem_nil _)) hr⟩

/-- The default proxy settings: what `LoadSettings` reads from the row `settings.default`
inserts. -/
def ProxySettings.default : ProxySettings := ({} : SettingsRow).proxy

/-- Along every run of the four calls, with any arguments and any fault schedule, from the table
the `settings.default` migration leaves on a table whose rows read as the defaults (the empty one
among them), every row reads as the values of the last `SaveSettings` that returned `noError`
(the defaults before any), and a `LoadSettings` whose call passes returns `noError` and those
values, whatever it was given. -/
theorem settings_runs (s₀ : Table SettingsRow) (h₀ : ∀ p ∈ s₀.rows, p.2.proxy = .default)
    (hr : Relation.ReflTransGen ProxyStep (settingsDefault s₀, .default) (s, v)) :
    (∀ p ∈ s.rows, p.2.proxy = v) ∧ ∀ (v₀ : ProxySettings) (w : World),
      w.faults.head? ≠ some true → (loadSettings v₀ s).run w = .ok (noError, v) w.pass := by
  have hs : Holds SettingsRow.proxy s v := ProxyStep.run_holds hr (settingsDefault_holds h₀)
  exact ⟨hs.rows, fun v₀ w hf => hs.select hf _ v₀⟩

/-- A channel saved on the default table, then a proxy: `LoadSettings` returns the proxy, and
the row keeps the channel. -/
theorem settings_runs_proxyThenChannel :
    let v : ProxySettings := ⟨true, "proxy", 8080, "u", "p", false⟩
    let s : Table SettingsRow := .single 1
      { useProxy := true, proxyHost := some "proxy", proxyPort := some 8080,
        proxyUsername := some "u", proxyPassword := some "p", useIdleDetection := false,
        updateChannel := "dev" }
    Relation.ReflTransGen ProxyStep (settingsDefault .empty, .default) (s, v) ∧
      ∀ (v₀ : ProxySettings) (w : World), w.faults.head? ≠ some true →
        (loadSettings v₀ s).run w = .ok (noError, v) w.pass := by
  intro v s
  have h₁ : ProxyStep (settingsDefault .empty, .default) (.single 1 { updateChannel := "dev" }, .default) :=
    ⟨_, @SettingsCall.Runs.saveUpdateChannel "dev" _ {} _ _ ({} : World).pass rfl, rfl⟩
  have h₂ : ProxyStep (.single 1 { updateChannel := "dev" }, .default) (s, v) :=
    ⟨_, @SettingsCall.Runs.saveSettings v _ ({} : World).pass _ _ ({} : World).pass.pass rfl, rfl⟩
  have hr := (Relation.ReflTransGen.single h₁).tail h₂
  exact ⟨hr, (settings_runs .empty (fun _ hp => absurd hp (List.not_mem_nil _)) hr).2⟩

end Kopsik
