import Aircd.Delivery

/-!
# Sync requests

The requests that the daemon sends to the server on behalf of Claude, each
registered in a map under its key until the call ends, and the reader loop, which
gives the messages that answer them to the requests and the others to Claude. All
of it runs on the event loop, one piece between two awaits at a time.
-/
namespace Aircd.Daemon
open Aircd.Runs Aircd.Text Aircd.Regex

inductive Action where
  | claim
  | done
  deriving DecidableEq

def Action.text : Action → Text
  | .claim => "claim".toList
  | .done => "done".toList

/-- The calls of `_request_history`, `_request_task_list` and `_request_task_action`. -/
inductive Request where
  | history (channel : Text) (after_seq limit : Int)
  | task_list (channel : Text)
  | task_action (action : Action) (task_id : Text)
  deriving DecidableEq

/-- The map in which a request is registered. -/
inductive Kind where
  | history
  | task_list
  | task_action
  deriving DecidableEq

def Request.kind : Request → Kind
  | .history _ _ _ => .history
  | .task_list _ => .task_list
  | .task_action _ _ => .task_action

def action_key (action task_id : Text) : Text := action ++ [':'] ++ task_id

def Request.key : Request → Text
  | .history channel _ _ => channel
  | .task_list channel => channel
  | .task_action action task_id => action_key action.text task_id

/-- The line that a request sends to the server. -/
def Request.line : Request → Text
  | .history channel after_seq limit =>
    "CHATHISTORY AFTER ".toList ++ channel ++ [' '] ++ decimal after_seq ++ [' '] ++ decimal limit
  | .task_list channel => "TASK LIST ".toList ++ channel
  | .task_action .claim task_id => "TASK CLAIM ".toList ++ task_id
  | .task_action .done task_id => "TASK DONE ".toList ++ task_id

def Request.in_flight_error : Request → Text
  | .history channel _ _ => "history request already in-flight for ".toList ++ channel
  | .task_list channel => "task list request already in-flight for ".toList ++ channel
  | .task_action action task_id => "task action request already in-flight for ".toList ++ action_key action.text task_id

inductive Status where
  | claimed
  | done
  | failed
  deriving DecidableEq

/-- What the reader loop appends to the responses of a request. -/
inductive Response where
  | replay (message : MessageDict)
  | task (id channel status claimed_by title : Text)
  | outcome (status : Status) (content : Text)
  deriving DecidableEq

structure SyncRequest where
  responses : List Response
  event : Bool
  done : Bool
  deriving DecidableEq

/-- How a call ended. -/
inductive Result where
  | in_flight (error : Text)
  | not_sent
  | responses (responses : List Response)
  | response (response : Response)
  | timeout
  | unknown
  deriving DecidableEq

/-- Where a call is: before its first piece, in the send, in `wait_for`, or at its end. -/
inductive Call where
  | unstarted
  | sending (request : Request) (object : Nat)
  | waiting (request : Request) (object : Nat)
  | ended (request : Request) (result : Result)
  deriving DecidableEq

/-- The maps, with the requests as numbered objects. -/
structure Requests where
  maps : Kind → Dict Text Nat
  objects : Nat → SyncRequest
  made : Nat

def Requests.get (r : Requests) (kind : Kind) (key : Text) : Option Nat := (r.maps kind).get key

def Requests.modify (r : Requests) (object : Nat) (change : SyncRequest → SyncRequest) : Requests :=
  { r with objects := Function.update r.objects object (change (r.objects object)) }

def Requests.register (r : Requests) (request : Request) : Requests where
  maps := Function.update r.maps request.kind ((r.maps request.kind).put request.key r.made)
  objects := Function.update r.objects r.made ⟨[], false, false⟩
  made := r.made + 1

/-- `pop(key, None)`. -/
def Requests.pop (r : Requests) (request : Request) : Requests :=
  { r with maps := Function.update r.maps request.kind ((r.maps request.kind).erase request.key) }

/-! ## The reader loop -/

def one_space : Item Char := plain (.repeated 1 true pythonSpace)
def one_word : Item Char := group (.repeated 1 true (fun c => !pythonSpace c))
def letters (word : String) : Item Char := plain (.word word.toList)

/-- `TASK\s+(\S+)\s+channel=(\S+)\s+status=(\S+)\s+claimed_by=(\S+)\s+lease_expires_at=(\S+)\s+title=:(.*)`. -/
def row_pattern : Pattern Char :=
  [letters "TASK", one_space, one_word, one_space, letters "channel=", one_word, one_space, letters "status=", one_word,
    one_space, letters "claimed_by=", one_word, one_space, letters "lease_expires_at=", one_word, one_space,
    letters "title=:", group (.repeated 0 true (fun c => c != '\n'))]

/-- `TASK\s+(CLAIM|DONE)\s+(\S+)\s+failed[\s:]`. -/
def failure_pattern : Pattern Char :=
  [letters "TASK", one_space, group (.among ["CLAIM".toList, "DONE".toList]), one_space, one_word, one_space,
    letters "failed", plain (.one (fun c => pythonSpace c || c == ':'))]

/-- `TASK\s+(\S+)\s+(claimed|completed)\s+by\s+(\S+?):`. -/
def success_pattern : Pattern Char :=
  [letters "TASK", one_space, one_word, one_space, group (.among ["claimed".toList, "completed".toList]), one_space,
    letters "by", one_space, group (.repeated 1 false (fun c => !pythonSpace c)), letters ":"]

def from_server (msg : Message) : Bool := msg.sender == "aircd".toList || msg.sender == "server".toList

/-- A row of a TASK LIST response, with its channel. -/
def task_row (content : Text) : Option (Text × Response) :=
  match matchHere row_pattern content with
  | some [id, channel, status, claimed_by, _, title] => some (channel, .task id channel status claimed_by title)
  | _ => none

/-- A failed claim or done, read from the body, with the key of its request. -/
def body_failure (content : Text) : Option (Text × Response) :=
  match matchHere failure_pattern content with
  | some [verb, task_id] =>
    some (action_key (if verb = "CLAIM".toList then "claim".toList else "done".toList) task_id, .outcome .failed content)
  | _ => none

/-- A successful one by the daemon itself. -/
def body_success (nick content : Text) : Option (Text × Response) :=
  match matchHere success_pattern content with
  | some [task_id, verb, who] =>
    let claimed := verb = "claimed".toList
    if who = nick then
      some (action_key (if claimed then "claim".toList else "done".toList) task_id,
        .outcome (if claimed then .claimed else .done) content)
    else none
  | _ => none

/-- The message has all the tags of a task event. -/
def tagged (msg : Message) : Bool :=
  !(msg.tag "task-id".toList).isEmpty && !(msg.tag "task-action".toList).isEmpty && !(msg.tag "task-status".toList).isEmpty

/-- The outcome that the tags tell, for the daemon itself if it is a success. -/
def tag_outcome (nick : Text) (msg : Message) : Option (Text × Response) :=
  let key := action_key (msg.tag "task-action".toList) (msg.tag "task-id".toList)
  if msg.tag "task-status".toList = "failed".toList then some (key, .outcome .failed msg.content)
  else if msg.tag "task-status".toList = "success".toList ∧ msg.tag "task-actor".toList = nick then
    some (key, .outcome (if msg.tag "task-action".toList = "claim".toList then .claimed else .done) msg.content)
  else none

/-- The pending task action whose outcome the message is, with the response. -/
def action_outcome (nick : Text) (r : Requests) (msg : Message) : Option (Nat × Response) :=
  let pending (outcome : Option (Text × Response)) : Option (Nat × Response) :=
    outcome.bind (fun (key, response) => (r.get .task_action key).map (fun object => (object, response)))
  if from_server msg then
    if tagged msg then pending (tag_outcome nick msg)
    else (pending (body_failure msg.content)).or (pending (body_success nick msg.content))
  else none

/-- The pending history request that the message is replayed for. -/
def history_replay (r : Requests) (msg : Message) : Option Nat :=
  if msg.is_replay then r.get .history msg.channel else none

/-- The second branch of the reader loop takes the message, whatever it finds in it. -/
def looks_like_row (r : Requests) (msg : Message) : Bool :=
  !(r.maps .task_list).rows.isEmpty && from_server msg && decide ("TASK ".toList <:+: msg.content)

/-- The pending list request that the message has a row for. -/
def listed_row (r : Requests) (msg : Message) : Option (Nat × Response) :=
  (task_row msg.content).bind (fun (channel, response) =>
    (r.get .task_list channel).map (fun object => (object, response)))

/-- Another response; the first one starts a task that will set the event. -/
def collect (r : Requests) (object : Nat) (response : Response) : Requests :=
  r.modify object (fun request => { request with responses := request.responses ++ [response], done := true })

/-- The branches of the reader loop for the three kinds of requests, and whether one of them took the message. -/
def answer (nick : Text) (r : Requests) (msg : Message) : Requests × Bool :=
  match history_replay r msg with
  | some object => (collect r object (.replay (message_to_dict msg)), true)
  | none =>
    if looks_like_row r msg then
      match listed_row r msg with
      | some (object, response) => (collect r object response, true)
      | none => (r, true)
    else
      match action_outcome nick r msg with
      | some (object, response) =>
        (r.modify object (fun request => { request with responses := request.responses ++ [response], event := true }), true)
      | none => (r, false)

/-! ## The event loop -/

structure Loop where
  requests : Requests
  calls : Nat → Call
  sent : List Text
  buffer : Buffer

namespace Loop

/-- The pieces of the calls and of the reader loop, and the events of the delivery buffer. -/
inductive Event where
  /-- A call begins and runs up to the drain of its send, which raises at once without a writer. -/
  | call (id : Nat) (request : Request) (connected : Bool)
  | drained (id : Nat) (succeeds : Bool)
  /-- `wait_for` returns, or times out. -/
  | resume (id : Nat) (timed_out : Bool)
  /-- The half second after the first response of a request is over. -/
  | finalize (object : Nat)
  | message (address : Nat) (msg : Message) (restarted : Option Nat)
  | buffer (e : Daemon.Event)

def setCall (s : Loop) (id : Nat) (call : Call) : Loop := { s with calls := Function.update s.calls id call }

/-- What a call returns at the end of its wait. -/
def result (request : Request) (found : SyncRequest) (timed_out : Bool) : Result :=
  match request with
  | .task_action _ _ =>
    if timed_out then .timeout
    else match found.responses.head? with
      | some response => .response response
      | none => .unknown
  | _ => .responses found.responses

def step (nick : Text) (s : Loop) : Event → Loop
  | .call id request connected =>
    match s.calls id with
    | .unstarted =>
      if (s.requests.get request.kind request.key).isSome then s.setCall id (.ended request (.in_flight request.in_flight_error))
      else
        let object := s.requests.made
        let s := { s with requests := s.requests.register request }
        if connected then { s.setCall id (.sending request object) with sent := s.sent ++ [request.line] }
        else s.setCall id (.ended request .not_sent)
    | _ => s
  | .drained id succeeds =>
    match s.calls id with
    | .sending request object =>
      if succeeds then s.setCall id (.waiting request object) else s.setCall id (.ended request .not_sent)
    | _ => s
  | .resume id timed_out =>
    match s.calls id with
    | .waiting request object =>
      let found := s.requests.objects object
      if timed_out || found.event then
        { s with requests := s.requests.pop request }.setCall id (.ended request (result request found timed_out))
      else s
    | _ => s
  | .finalize object =>
    if (s.requests.objects object).done then
      { s with requests := s.requests.modify object (fun request => { request with event := true }) }
    else s
  | .message address msg restarted =>
    if s.buffer.stage = .Waiting ∧ ∀ m ∈ s.buffer.live, m.address ≠ address then
      let (requests, taken) := answer nick s.requests msg
      let s := { s with requests := requests }
      if taken || msg.sender = nick then s
      else { s with buffer := Daemon.step s.buffer (.receive address msg restarted) }
    else s
  | .buffer e =>
    match e with
    | .receive _ _ _ => s
    | e => { s with buffer := Daemon.step s.buffer e }

/-- Any requests, with no call under way. -/
def opening (requests : Requests) (buffer : Buffer) : Loop := ⟨requests, fun _ => .unstarted, [], buffer⟩

end Loop

end Aircd.Daemon
