import TogglDesktop.Push.WebSocket
import TogglDesktop.Model.Running
import Mathlib.Data.List.Chain

namespace Kopsik
set_option autoImplicit true

/-! The push channel's worker. `Start` starts the activity, `Stop` asks it to stop, waits for
the loop to end and drops the connection, and each pass of `runActivity` polls the connection
when there is one, drops it on an error, and opens a new one once the last frame or connection
attempt is more than `kWebSocketRestartThreshold` seconds old. `Start` and `Stop` are called
from one caller thread, so `Stop` blocks that thread until the loop has ended; the passes run
on the activity's own thread and interleave with `Start` and with the stop request. -/

/-- `kWebSocketRestartThreshold`. -/
def kWebSocketRestartThreshold : Int := 30

/-- `Poco::Activity`'s states: not running, running, and asked to stop while the loop still
runs (`isRunning()` and `isStopped()` both hold). -/
inductive Phase
  | stopped
  | running
  | stopping
  deriving DecidableEq, Repr

/-- The message `authenticate` builds before `json_write_formatted` serialises it. -/
def authenticateMessage (apiToken : String) : JSONNode :=
  .node [("type", .string "authenticate"), ("api_token", .string apiToken)]

/-- What the connection attempt of `createSession` meets: a failure before `ws_` is set (the
URI, the SSL context, the WebSocket handshake), a failure after it (the timeouts, or sending
the authenticate frame), or none. -/
inductive Connect
  | refused (e : Exception)
  | authFails (e : Exception)
  | ok

/-- The `WebSocketClient` members the worker reads and writes: the activity's state, the
`api_token_` `Start` stored, whether `ws_` is set, the frames, callbacks and
`last_connection_at_` as `poll` keeps them, and the `time(0)` of each `createSession` call. -/
structure Activity where
  phase : Phase := .stopped
  apiToken : String := ""
  connected : Bool := false
  client : WebSocketClient := {}
  attempts : List Poco.Int64 := []

namespace Activity

/-- `WebSocketClient::Start`: ignored while the activity runs. -/
def start (apiToken : String) (a : Activity) : Activity :=
  if a.phase = .stopped then { a with phase := .running, apiToken } else a

/-- The first half of `WebSocketClient::Stop`, `activity_.stop()`. -/
def requestStop (a : Activity) : Activity :=
  if a.phase = .running then { a with phase := .stopping } else a

/-- The second half of `Stop`: the loop has ended, `activity_.wait()` returns, and
`deleteSession` drops the connection. -/
def finish (a : Activity) : Activity := { a with phase := .stopped, connected := false }

/-- `WebSocketClient::createSession`, with `json_write_formatted` as `write`: `deleteSession`,
`last_connection_at_ = time(0)`, then the connection; `ws_` stays set when the failure comes
after the handshake. -/
def createSession (write : JSONNode → String) (conn : Connect) (now : Poco.Int64) (a : Activity) :
    error × Activity :=
  let a := { a with
    connected := false
    client := { a.client with lastConnectionAt := now }
    attempts := a.attempts ++ [now] }
  match conn with
  | .refused e => (e.displayText, a)
  | .authFails e => (e.displayText, { a with connected := true })
  | .ok =>
    (noError, { a with
      connected := true
      client := { a.client with sent := a.client.sent ++ [write (authenticateMessage a.apiToken)] } })

/-- What one pass of the `runActivity` loop meets: the socket and clock `poll` sees, whether
the stop request has come by `poll`'s `isStopped()`, the clock at the staleness check, and
the outcome and clock of the connection attempt. -/
structure PassInput where
  socket : Socket
  pollAt : Poco.Int64
  stopSeen : Bool
  checkAt : Poco.Int64
  connect : Connect
  connectAt : Poco.Int64

/-- The staleness check of `runActivity`, on `time_t` values. -/
def stale (now last : Poco.Int64) : Bool := (now - last).toInt > kWebSocketRestartThreshold

/-- The `poll` part of a pass: only with `ws_` set; an error drops the connection. -/
def pollPart (i : PassInput) (a : Activity) : Activity :=
  if a.connected then
    let r := poll i.socket i.pollAt i.stopSeen a.client
    { a with
      client := r.2
      connected := r.1 = noError
      phase := if i.stopSeen then .stopping else a.phase }
  else { a with phase := if i.stopSeen then .stopping else a.phase }

/-- One pass of the `runActivity` loop; the sleeps change nothing but the clock. -/
def pass (write : JSONNode → String) (i : PassInput) (a : Activity) : Activity :=
  let a := a.pollPart i
  if stale i.checkAt a.client.lastConnectionAt then (a.createSession write i.connect i.connectAt).2
  else a

end Activity

/-- The steps of the push channel: `Start`, the stop request, a pass of the loop while it runs
(with the inputs `ok` admits), and the end of `Stop` once the loop has seen the request. -/
inductive Activity.Step (write : JSONNode → String) (ok : Activity → Activity.PassInput → Prop) :
    Activity → Activity → Prop
  | start (t : String) (ht : t ≠ "") (h : a.phase ≠ .stopping) : Step write ok a (a.start t)
  | requestStop (h : a.phase = .running) : Step write ok a a.requestStop
  | pass (i : Activity.PassInput) (h : a.phase = .running) (hi : ok a i) :
      Step write ok a (a.pass write i)
  | finish (h : a.phase = .stopping) : Step write ok a a.finish

namespace Activity

/-- The frames sent between two states: the later list extends the earlier one, by frames that
`P` admits. -/
def Extends (P : String → Prop) (s s' : List String) : Prop := ∃ new, s' = s ++ new ∧ ∀ f ∈ new, P f

section Extends

variable {P Q : String → Prop} {s s₁ s₂ s₃ : List String}

theorem Extends.refl : Extends P s s := ⟨[], by simp, by simp⟩

theorem Extends.trans (h₁ : Extends P s₁ s₂) (h₂ : Extends P s₂ s₃) : Extends P s₁ s₃ := by
  obtain ⟨n₁, rfl, hn₁⟩ := h₁
  obtain ⟨n₂, rfl, hn₂⟩ := h₂
  refine ⟨n₁ ++ n₂, by simp, fun f hf => ?_⟩
  rcases List.mem_append.1 hf with hf | hf
  exacts [hn₁ f hf, hn₂ f hf]

theorem Extends.mono (h : Extends P s₁ s₂) (hPQ : ∀ f, P f → Q f) : Extends Q s₁ s₂ :=
  let ⟨n, hn, hP⟩ := h
  ⟨n, hn, fun f hf => hPQ f (hP f hf)⟩

end Extends

section Lemmas

variable {write : JSONNode → String} {i : PassInput} {a : Activity} {t : String}

theorem poll_lastConnectionAt (ws : Socket) (now : Poco.Int64) (stopped : Bool)
    (c : WebSocketClient) :
    (poll ws now stopped c).2.lastConnectionAt = c.lastConnectionAt ∨
      (poll ws now stopped c).2.lastConnectionAt = now := by
  unfold poll
  cases ws.readable
  · exact .inl rfl
  · cases ws.receive
    · exact .inl rfl
    · dsimp only
      split_ifs <;> first | exact .inr rfl | exact .inl rfl

theorem poll_sent (ws : Socket) (now : Poco.Int64) (stopped : Bool) (c : WebSocketClient) :
    Extends (· = kPong) c.sent (poll ws now stopped c).2.sent := by
  unfold poll
  cases ws.readable
  · exact .refl
  · cases ws.receive
    · exact .refl
    · dsimp only
      split_ifs <;> first | exact .refl | exact ⟨[kPong], rfl, by simp⟩

@[simp] theorem start_client : (a.start t).client = a.client := by
  unfold start; split <;> rfl

@[simp] theorem start_attempts : (a.start t).attempts = a.attempts := by
  unfold start; split <;> rfl

theorem start_of_ne (h : a.phase ≠ .stopped) : a.start t = a := if_neg h

@[simp] theorem requestStop_apiToken : a.requestStop.apiToken = a.apiToken := by
  unfold requestStop; split <;> rfl

@[simp] theorem requestStop_client : a.requestStop.client = a.client := by
  unfold requestStop; split <;> rfl

@[simp] theorem requestStop_attempts : a.requestStop.attempts = a.attempts := by
  unfold requestStop; split <;> rfl

@[simp] theorem finish_client : a.finish.client = a.client := rfl

@[simp] theorem finish_attempts : a.finish.attempts = a.attempts := rfl

@[simp] theorem pollPart_apiToken : (a.pollPart i).apiToken = a.apiToken := by
  unfold pollPart; split <;> rfl

@[simp] theorem pollPart_attempts : (a.pollPart i).attempts = a.attempts := by
  unfold pollPart; split <;> rfl

theorem pollPart_lastConnectionAt :
    (a.pollPart i).client.lastConnectionAt = a.client.lastConnectionAt ∨
      (a.pollPart i).client.lastConnectionAt = i.pollAt := by
  unfold pollPart
  split
  · exact poll_lastConnectionAt _ _ _ _
  · exact .inl rfl

theorem pollPart_sent : Extends (· = kPong) a.client.sent (a.pollPart i).client.sent := by
  unfold pollPart
  split
  · exact poll_sent _ _ _ _
  · exact .refl

@[simp] theorem createSession_apiToken (conn : Connect) (now : Poco.Int64) :
    (a.createSession write conn now).2.apiToken = a.apiToken := by
  unfold createSession; split <;> rfl

@[simp] theorem createSession_lastConnectionAt (conn : Connect) (now : Poco.Int64) :
    (a.createSession write conn now).2.client.lastConnectionAt = now := by
  unfold createSession; split <;> rfl

@[simp] theorem createSession_attempts (conn : Connect) (now : Poco.Int64) :
    (a.createSession write conn now).2.attempts = a.attempts ++ [now] := by
  unfold createSession; split <;> rfl

theorem createSession_sent (conn : Connect) (now : Poco.Int64) :
    Extends (· = write (authenticateMessage a.apiToken)) a.client.sent
      (a.createSession write conn now).2.client.sent := by
  unfold createSession
  split
  · exact .refl
  · exact .refl
  · exact ⟨_, rfl, by simp⟩

@[simp] theorem pass_apiToken : (a.pass write i).apiToken = a.apiToken := by
  dsimp only [Activity.pass]; split <;> simp

theorem pass_sent :
    Extends (fun f => f = kPong ∨ f = write (authenticateMessage a.apiToken)) a.client.sent
      (a.pass write i).client.sent := by
  have hpoll : Extends (fun f => f = kPong ∨ f = write (authenticateMessage a.apiToken))
      a.client.sent (a.pollPart i).client.sent := pollPart_sent.mono fun _ => Or.inl
  dsimp only [Activity.pass]
  split
  · refine hpoll.trans (createSession_sent _ _ |>.mono fun f hf => .inr ?_)
    rw [hf, pollPart_apiToken]
  · exact hpoll

end Lemmas

/-- A clock that does not go back: the readings of a pass come in order, none before the last
frame or connection attempt. -/
def Timely (a : Activity) (i : PassInput) : Prop :=
  a.client.lastConnectionAt.toInt ≤ i.pollAt.toInt ∧ i.pollAt.toInt ≤ i.checkAt.toInt ∧
    i.checkAt.toInt ≤ i.connectAt.toInt

instance (a : Activity) (i : PassInput) : Decidable (Timely a i) :=
  inferInstanceAs (Decidable (_ ∧ _ ∧ _))

/-! ### The token of an epoch -/

theorem Step.epoch_step (hs : Step write ok b c) (hb : b.phase ≠ .stopped)
    (hc : c.phase ≠ .stopped) : c.apiToken = b.apiToken ∧
      Extends (fun f => f = kPong ∨ f = write (authenticateMessage b.apiToken)) b.client.sent
        c.client.sent := by
  cases hs with
  | start => rw [start_of_ne hb]; exact ⟨rfl, .refl⟩
  | requestStop => exact ⟨requestStop_apiToken, by rw [requestStop_client]; exact .refl⟩
  | pass => exact ⟨pass_apiToken, pass_sent⟩
  | finish => exact absurd rfl hc

/-- Between a `Start` that starts the activity and the end of the `Stop` that follows it, the
client keeps that `Start`'s token, whatever token a later `Start` call passes, and sends only
pongs and the authenticate frame carrying that token. -/
theorem Step.epoch_frames (hr : Relation.ReflTransGen
      (fun a b => Step write ok a b ∧ b.phase ≠ .stopped) a b) (ha : a.phase ≠ .stopped) :
    b.apiToken = a.apiToken ∧ ∃ new, b.client.sent = a.client.sent ++ new ∧
      ∀ f ∈ new, f = kPong ∨ f = write (authenticateMessage a.apiToken) := by
  induction hr with
  | refl => exact ⟨rfl, Extends.refl⟩
  | @tail b c hab hbc ih =>
    have hb : b.phase ≠ .stopped := by
      rcases Relation.ReflTransGen.cases_tail hab with rfl | ⟨_, -, -, hb⟩
      exacts [ha, hb]
    obtain ⟨htok, hsent⟩ := ih
    obtain ⟨htok', hsent'⟩ := hbc.1.epoch_step hb hbc.2
    rw [htok] at hsent'
    exact ⟨htok'.trans htok, Extends.trans hsent hsent'⟩

/-- A `Start` with a second token while the first epoch runs changes nothing: the frames of
the epoch still carry the first token. -/
theorem Step.epoch_frames_secondStart : ∃ b : Activity,
    Relation.ReflTransGen
      (fun a b => Step (fun n => ",".intercalate (n.children.map (·.2.asString))) Timely a b ∧
        b.phase ≠ .stopped) (({} : Activity).start "t1") b ∧
    b.client.sent = ["authenticate,t1"] ∧ b.apiToken = "t1" ∧
      ∃ new, b.client.sent = [] ++ new ∧ ∀ f ∈ new,
        f = kPong ∨ f = ",".intercalate ((authenticateMessage "t1").children.map (·.2.asString)) :=
  have hrun := Relation.ReflTransGen.tail (.single
    ⟨.pass ⟨⟨false, .error (.sql ""), false⟩, 40, false, 40, .ok, 40⟩ (by decide) (by decide),
      by decide⟩)
    ⟨.start "t2" (by decide) (by decide), by decide⟩
  ⟨_, hrun, by decide, Step.epoch_frames hrun (by decide)⟩

/-! ### Reconnect spacing -/

theorem toInt_sub_of_nonneg {x y : Poco.Int64} (hx : 0 ≤ x.toInt) (hy : 0 ≤ y.toInt) :
    (x - y).toInt = x.toInt - y.toInt := by
  have := x.isLt
  have := y.isLt
  simp only [TimeEntry.toInt64, BitVec.toNat_sub] at *
  split_ifs at * <;> omega

/-- What the spacing needs: `last_connection_at_` is a reading from 1970 on, no earlier than
the last connection attempt, and the attempts so far are more than the threshold apart. -/
structure Spaced (a : Activity) : Prop where
  nonneg : 0 ≤ a.client.lastConnectionAt.toInt
  last : ∀ t ∈ a.attempts.getLast?, t.toInt ≤ a.client.lastConnectionAt.toInt
  chain : a.attempts.Chain' fun s t => s.toInt + kWebSocketRestartThreshold < t.toInt

section Spaced

variable {write : JSONNode → String} {i : PassInput} {a b : Activity}

theorem Spaced.congr (h : Spaced a) (hc : b.client = a.client) (ha : b.attempts = a.attempts) :
    Spaced b :=
  ⟨by rw [hc]; exact h.nonneg, by rw [hc, ha]; exact h.last, by rw [ha]; exact h.chain⟩

theorem Spaced.pollPart (h : Spaced a) (hi : Timely a i) : Spaced (a.pollPart i) := by
  have hlc : a.client.lastConnectionAt.toInt ≤ (a.pollPart i).client.lastConnectionAt.toInt := by
    rcases pollPart_lastConnectionAt (a := a) (i := i) with hl | hl <;> rw [hl]
    exact hi.1
  refine ⟨h.nonneg.trans hlc, fun t ht => ?_, by rw [pollPart_attempts]; exact h.chain⟩
  rw [pollPart_attempts] at ht
  exact (h.last t ht).trans hlc

theorem Spaced.pass (h : Spaced a) (hi : Timely a i) : Spaced (a.pass write i) := by
  have hb := h.pollPart hi
  dsimp only [Activity.pass]
  split
  · rename_i hstale
    set b := a.pollPart i
    have hcheck : 0 ≤ i.checkAt.toInt := by
      have := hi.2.1; have := hi.1; have := h.nonneg; omega
    have hgap : b.client.lastConnectionAt.toInt + kWebSocketRestartThreshold < i.checkAt.toInt := by
      have := hstale
      simp only [stale, decide_eq_true_eq, toInt_sub_of_nonneg hcheck hb.nonneg] at this
      omega
    have hconn := hi.2.2
    refine ⟨by rw [createSession_lastConnectionAt]; omega, fun t ht => ?_, ?_⟩
    · have ht : i.connectAt = t := by simpa [List.getLast?_append] using ht
      rw [← ht, createSession_lastConnectionAt]
    · rw [createSession_attempts]
      refine hb.chain.append (List.chain'_singleton _) fun s hs t ht => ?_
      rw [List.head?_singleton, Option.mem_def, Option.some.injEq] at ht
      rw [← ht]
      have := hb.last s hs
      omega
  · exact hb

end Spaced

/-- Along every run from a new client on a clock that does not go back, two consecutive
`createSession` calls are more than `kWebSocketRestartThreshold` seconds apart: the channel
reconnects at most once per threshold crossing, on an I/O error as on a stale connection. -/
theorem Step.reconnect_spacing (hr : Relation.ReflTransGen (Step write Timely) {} a) :
    a.attempts.Chain' fun s t => s.toInt + kWebSocketRestartThreshold < t.toInt := by
  suffices Spaced a from this.chain
  induction hr with
  | refl => exact ⟨by decide, by simp, List.chain'_nil⟩
  | tail _ hs ih =>
    cases hs with
    | start => exact ih.congr start_client start_attempts
    | requestStop => exact ih.congr requestStop_client requestStop_attempts
    | pass i _ hi => exact ih.pass hi
    | finish => exact ih.congr finish_client finish_attempts

/-- Refused connections at 40 and 80 with a pass at 60 between them, which finds the last
attempt fresh and leaves it. -/
theorem Step.reconnect_spacing_refused : ∃ a : Activity,
    Relation.ReflTransGen (Step (fun _ => "") Timely) {} a ∧ a.attempts = [40, 80] ∧
      a.attempts.Chain' fun s t => s.toInt + kWebSocketRestartThreshold < t.toInt :=
  have hrun := Relation.ReflTransGen.tail (.tail (.tail (.single (.start "t" (by decide) (by decide)))
    (.pass ⟨⟨false, .error (.sql ""), false⟩, 40, false, 40, .refused (.sql "refused"), 40⟩
      (by decide) (by decide)))
    (.pass ⟨⟨false, .error (.sql ""), false⟩, 60, false, 60, .refused (.sql "refused"), 60⟩
      (by decide) (by decide)))
    (.pass ⟨⟨false, .error (.sql ""), false⟩, 80, false, 80, .refused (.sql "refused"), 80⟩
      (by decide) (by decide))
  ⟨_, hrun, by decide, Step.reconnect_spacing hrun⟩

end Activity

end Kopsik
