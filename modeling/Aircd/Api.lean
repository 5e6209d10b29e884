import Aircd.Json
import Aircd.Query
import Aircd.Requests
import Aircd.Sender

/-!
# The HTTP API of the daemon

`DaemonHTTPHandler`: the handler for each method and path, what it reads in the
query or in the JSON body, and the JSON that it answers. A handler that submits a
request to the event loop answers when the call has ended. The request line is within
the limit of `http.server`.
-/
namespace Aircd.Api
open Aircd.Text Aircd.Utf8 Aircd.Json Aircd.Query Aircd.Daemon

inductive Method where
  | GET
  | POST
  deriving DecidableEq

structure HttpRequest where
  method : Method
  path : Text
  body : List UInt8

structure HttpResponse where
  status : Nat
  body : List UInt8

/-- What the handlers read and change of the daemon. -/
structure State where
  nick : Text
  channels : List Text
  agent : AgentState
  sender : Sender.Daemon

/-- A handler answers at once, or when the request that it submits has ended. -/
inductive Handled where
  | respond (data : Value) (status : Nat)
  | submit (request : Request)

/-! ## Fields -/

def error (text : Text) : Value := .obj [field "error" (.str text)]

/-- `get(key, default)` of a dictionary whose values for the key are strings. Nothing
    is said of a value of another type. -/
def text_field (value : Value) (key : String) (default : Text) : Option Text :=
  match value with
  | .obj _ =>
    match value.get key.toList with
    | none => some default
    | some (.str t) => some t
    | some _ => none
  | _ => none

def text_item : Value → Option Text
  | .str t => some t
  | _ => none

/-- `get(key, [])`, of a list of strings. -/
def texts_field (value : Value) (key : String) : Option (List Text) :=
  match value with
  | .obj _ =>
    match value.get key.toList with
    | none => some []
    | some (.arr items) => items.mapM text_item
    | some _ => none
  | _ => none

/-! ## Handlers -/

/-- `_read_body`. Of what `json.loads` takes of bytes, UTF-8 without a byte order mark, and no number with a fraction. -/
def read_body (body : List UInt8) : Option Value :=
  if body.isEmpty then some (.obj []) else (decode body).bind loads

def dict_fields (m : MessageDict) : List (Text × Value) :=
  [field "channel" (.str m.channel), field "sender" (.str m.sender), field "content" (.str m.content),
    field "msg_id" (.str m.msg_id), field "time" (.str m.time),
    field "seq" (match m.seq with | some n => .int n | none => .null), field "is_replay" (.bool m.is_replay)]

def pending_message : MessageDict × Text → Value
  | (m, mid) => .obj (dict_fields m ++ [field "delivery_id" (.str mid)])

def handle_check_messages (s : State) (now : Int) : State × Handled :=
  let (agent, messages) := Daemon.check_messages s.agent now
  ({ s with agent := agent }, .respond (.obj [field "messages" (.arr (messages.map pending_message))]) 200)

def handle_ack_messages (s : State) (body : List UInt8) : Option (State × Handled) := do
  let body ← read_body body
  let msg_ids ← texts_field body "msg_ids"
  match Daemon.ack_messages s.agent msg_ids with
  | (agent, none) => return ({ s with agent := agent }, .respond (error "msg_ids required".toList) 400)
  | (agent, some acked) => return ({ s with agent := agent }, .respond (.obj [field "acked" (.int acked)]) 200)

def handle_send_message (s : State) (body : List UInt8) : Option (State × Handled) := do
  let body ← read_body body
  let target ← text_field body "target" []
  let content ← text_field body "content" []
  match Sender.handle_send_message s.sender target content with
  | (sender, .error text status) => return ({ s with sender := sender }, .respond (error text) status)
  | (sender, .status text) => return ({ s with sender := sender }, .respond (.obj [field "status" (.str text)]) 200)

/-- The checks of a handler before it submits a request that needs a text. -/
def submit (s : State) (needed : Text) (missing : String) (request : Request) : Handled :=
  if needed.isEmpty then .respond (error missing.toList) 400
  else if !s.sender.ready then .respond (error "daemon not ready".toList) 503
  else .submit request

def handle_history (s : State) (path : Text) : Option Handled := do
  let query := query_of path
  let channel := first_value query "channel".toList []
  let after_seq ← pythonInt (first_value query "after_seq".toList ['0'])
  let limit ← pythonInt (first_value query "limit".toList ['5', '0'])
  return submit s channel "channel required" (.history channel after_seq limit)

def handle_server_info (s : State) : Handled :=
  .respond (.obj [
    field "channels" (.arr (s.channels.map (fun ch => .obj [field "name" (.str ch), field "members" (.arr [])]))),
    field "agents" (.arr [.str s.nick])]) 200

def handle_list_tasks (s : State) (path : Text) : Handled :=
  let channel := first_value (query_of path) "channel".toList []
  submit s channel "channel required" (.task_list channel)

def handle_task_action (action : Action) (s : State) (body : List UInt8) : Option Handled := do
  let body ← read_body body
  let task_id ← text_field body "task_id" []
  return submit s task_id "task_id required" (.task_action action task_id)

def handle_task_claim : State → List UInt8 → Option Handled := handle_task_action .claim
def handle_task_done : State → List UInt8 → Option Handled := handle_task_action .done

def do_GET (s : State) (now : Int) (path : Text) : Option (State × Handled) :=
  if path = "/messages/pending".toList then some (handle_check_messages s now)
  else if "/history".toList <+: path then (handle_history s path).map (fun handled => (s, handled))
  else if path = "/server/info".toList then some (s, handle_server_info s)
  else if "/tasks".toList <+: path then some (s, handle_list_tasks s path)
  else some (s, .respond (error "not found".toList) 404)

def do_POST (s : State) (path : Text) (body : List UInt8) : Option (State × Handled) :=
  if path = "/messages/send".toList then handle_send_message s body
  else if path = "/messages/ack".toList then handle_ack_messages s body
  else if path = "/tasks/claim".toList then (handle_task_claim s body).map (fun handled => (s, handled))
  else if path = "/tasks/done".toList then (handle_task_done s body).map (fun handled => (s, handled))
  else some (s, .respond (error "not found".toList) 404)

/-- One request, unless the handler raises. -/
def handle (s : State) (now : Int) (request : HttpRequest) : Option (State × Handled) :=
  match request.method with
  | .GET => do_GET s now request.path
  | .POST => do_POST s request.path request.body

/-! ## Answers -/

def response_value : Response → Value
  | .replay m => .obj (dict_fields m)
  | .task id channel status claimed_by title =>
    .obj [field "id" (.str id), field "channel" (.str channel), field "status" (.str status),
      field "claimed_by" (.str claimed_by), field "title" (.str title)]
  | .outcome .failed content => .obj [field "status" (.str "failed".toList), field "error" (.str content)]
  | .outcome .claimed content => .obj [field "status" (.str "claimed".toList), field "detail" (.str content)]
  | .outcome .done content => .obj [field "status" (.str "done".toList), field "detail" (.str content)]

/-- What `future.result` gives to the handler: how the call has ended, with the text of the exception
    that its send raised, or nothing when the handler has waited long enough. -/
structure Future where
  result : Option Result
  raised : Text

/-- The key of the list that a handler answers. -/
def list_key : Request → String
  | .history _ _ _ => "messages"
  | _ => "tasks"

/-- The data and the status that a handler answers in the end. -/
def Handled.answer (future : Future) : Handled → Value × Nat
  | .respond data status => (data, status)
  | .submit request =>
    match future.result with
    | none => (error [], 500)
    | some (.in_flight text) => (error text, 500)
    | some .not_sent => (error future.raised, 500)
    | some (.responses responses) =>
      (.obj [field (list_key request) (.arr (responses.map response_value))], 200)
    | some (.response response) => (response_value response, 200)
    | some .timeout =>
      (.obj [field "status" (.str "timeout".toList), field "error" (.str "no response from server".toList)], 200)
    | some .unknown => (.obj [field "status" (.str "unknown".toList)], 200)

/-- `_respond_json`. -/
def respond_json (answer : Value × Nat) : HttpResponse := ⟨answer.2, encode (dumps answer.1)⟩

end Aircd.Api
