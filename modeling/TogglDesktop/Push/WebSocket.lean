import TogglDesktop.Model.Base

namespace Kopsik
set_option autoImplicit true

/-- A libjson node: the JSON codec is a collaborator, and this is its parse tree. -/
inductive JSONNode
  | null
  | bool (value : Bool)
  | number (text : String)
  | string (value : String)
  | array (children : List JSONNode)
  | node (members : List (String × JSONNode))

namespace JSONNode

/-- What `json_begin`..`json_end` walks, with `json_name` of each child: the members of an
object, the unnamed children of an array, nothing for a scalar. -/
def children : JSONNode → List (String × JSONNode)
  | .node members => members
  | .array cs => cs.map ("", ·)
  | _ => []

/-- libjson's `json_as_string`: a string's value, a scalar's text, nothing for a container. -/
def asString : JSONNode → String
  | .null => "null"
  | .bool b => if b then "true" else "false"
  | .number text => text
  | .string value => value
  | _ => ""

end JSONNode

/-- A frame as `receiveWebSocketMessage` hands it over: the payload text, and libjson's parse
of it, `none` when `IsValidJSON` rejects it. -/
structure Frame where
  payload : String
  json : Option JSONNode

/-- The loop of `parseWebSocketMessageType`: the first child named `type` decides, with
`break`; without one the type stays `"data"`. -/
def firstType : List (String × JSONNode) → String
  | [] => "data"
  | (name, child) :: rest => if name = "type" then child.asString else firstType rest

/-- `WebSocketClient::parseWebSocketMessageType`. -/
def parseWebSocketMessageType (frame : Frame) : String :=
  match frame.json with
  | none => ""
  | some root => firstType root.children

theorem firstType_eq (l : List (String × JSONNode)) :
    firstType l = ((l.find? (·.1 = "type")).map (·.2.asString)).getD "data" := by
  induction l with
  | nil => rfl
  | cons p l ih =>
    obtain ⟨name, child⟩ := p
    by_cases h : name = "type" <;> simp [firstType, h, ih]

/-- The type `parseWebSocketMessageType` reads: `""` for a payload libjson rejects, otherwise
the text of the first top-level member named `type`, and `"data"` when there is none, as for
every array and scalar. -/
theorem parseWebSocketMessageType_eq (frame : Frame) :
    parseWebSocketMessageType frame = match frame.json with
      | none => ""
      | some root => ((root.children.find? (·.1 = "type")).map (·.2.asString)).getD "data" := by
  unfold parseWebSocketMessageType
  split <;> simp [firstType_eq]

theorem firstType_array (cs : List JSONNode) : firstType (JSONNode.array cs).children = "data" := by
  induction cs with
  | nil => rfl
  | cons c cs ih => simpa [firstType, JSONNode.children] using ih

/-- `kPong`. -/
def kPong : String := "\x7b\"type\": \"pong\"\x7d"

/-- What the connection does during one `poll`: whether a frame is waiting within the poll
timeout, what `receiveWebSocketMessage` returns, and whether `sendFrame` raises. -/
structure Socket where
  readable : Bool
  receive : Except Exception Frame
  sendFails : Bool

/-- The client's observable state: frames sent, payloads handed to `on_websocket_message_`,
and `last_connection_at_`. -/
structure WebSocketClient where
  sent : List String := []
  delivered : List String := []
  lastConnectionAt : Poco.Int64 := 0

/-- `WebSocketClient::poll`; `now` is `time(0)` and `stopped` is `activity_.isStopped()`. -/
def poll (ws : Socket) (now : Poco.Int64) (stopped : Bool) (c : WebSocketClient) :
    error × WebSocketClient :=
  if !ws.readable then (noError, c) else
  match ws.receive with
  | .error e => (e.displayText, c)
  | .ok frame =>
    if frame.payload = "" then ("WebSocket peer has shut down or closed the connection", c) else
    let c := { c with lastConnectionAt := now }
    let type := parseWebSocketMessageType frame
    if stopped then (noError, c) else
    if "ping" = type then
      let c := { c with sent := c.sent ++ [kPong] }
      if ws.sendFails then ((Exception.sql "send failed").displayText, c) else (noError, c)
    else if "data" = type then (noError, { c with delivered := c.delivered ++ [frame.payload] })
    else (noError, c)

end Kopsik
