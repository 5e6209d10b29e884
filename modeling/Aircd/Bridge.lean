import Aircd.Api

/-!
# The bridge

The tools of `bridge.py` that Claude calls. Each is one request to the HTTP API of
the daemon, and its answer is what Claude is shown.
-/
namespace Aircd.Bridge
open Aircd.Text Aircd.Utf8 Aircd.Json Aircd.Query Aircd.Daemon Aircd.Api

inductive Tool where
  | check_messages
  | ack_messages (delivery_ids : List Text)
  | send_message (target content : Text)
  | read_history (channel : Text) (limit after_seq : Int)
  | list_server
  | list_tasks (channel : Text)
  | claim_task (task_id : Text)
  | complete_task (task_id : Text)

/-! ## Requests -/

def daemon_get (path : Text) : HttpRequest := ⟨.GET, path, []⟩
def daemon_post (path : String) (body : List (Text × Value)) : HttpRequest := ⟨.POST, path.toList, encode (dumps (.obj body))⟩

def with_params (path : String) (params : List (String × Text)) : Text :=
  path.toList ++ '?' :: urlencode (params.map (fun (name, value) => (name.toList, value)))

def Tool.request : Tool → HttpRequest
  | .check_messages => daemon_get "/messages/pending".toList
  | .ack_messages delivery_ids => daemon_post "/messages/ack" [field "msg_ids" (.arr (delivery_ids.map .str))]
  | .send_message target content => daemon_post "/messages/send" [field "target" (.str target), field "content" (.str content)]
  | .read_history channel limit after_seq =>
    daemon_get (with_params "/history" [("channel", channel), ("after_seq", decimal after_seq), ("limit", decimal limit)])
  | .list_server => daemon_get "/server/info".toList
  | .list_tasks channel => daemon_get (with_params "/tasks" [("channel", channel)])
  | .claim_task task_id => daemon_post "/tasks/claim" [field "task_id" (.str task_id)]
  | .complete_task task_id => daemon_post "/tasks/done" [field "task_id" (.str task_id)]

/-! ## Answers -/

def reason_phrase (status : Nat) : String :=
  match status with
  | 400 => "Bad Request"
  | 404 => "Not Found"
  | 500 => "Internal Server Error"
  | 503 => "Service Unavailable"
  | _ => ""

/-- What `str` makes of an `HTTPError`. -/
def http_error (status : Nat) : Text :=
  "HTTP Error ".toList ++ decimal status ++ ": ".toList ++ (reason_phrase status).toList

/-- The dictionary that `_daemon_get` and `_daemon_post` return. -/
def daemon_result (response : HttpResponse) : Option Value :=
  if 200 ≤ response.status ∧ response.status < 300 then (decode response.body).bind loads
  else some (error (http_error response.status))

def format_message (msg : Value) : Option Text := do
  let target ← text_field msg "channel" []
  let msg_id ← text_field msg "msg_id" []
  let delivery_id ← text_field msg "delivery_id" []
  let time_val ← text_field msg "time" []
  let sender ← text_field msg "sender" []
  let content ← text_field msg "content" []
  let msg_type ← text_field msg "type" []
  let parts := ["target=".toList ++ target] ++ envelope_part "delivery_id".toList delivery_id ++
    envelope_part "msg".toList msg_id ++ envelope_part "time".toList time_val ++ envelope_part "type".toList msg_type
  return '[' :: join [' '] parts ++ "] @".toList ++ sender ++ ": ".toList ++ content

def format_task (t : Value) : Option Text := do
  let tid ← text_field t "id" []
  let title ← text_field t "title" []
  let status ← text_field t "status" []
  let claimed ← text_field t "claimed_by" ['-']
  return "- ".toList ++ tid ++ " [".toList ++ status ++ "] ".toList ++ title ++ " (claimed: ".toList ++ claimed ++ ")".toList

/-- `get(key, [])`, of a list. -/
def items_field (value : Value) (key : String) : Option (List Value) :=
  match value with
  | .obj _ =>
    match value.get key.toList with
    | none => some []
    | some (.arr items) => some items
    | some _ => none
  | _ => none

/-- The lines for a list of the result, or the text for an empty one. -/
def listed (result : Value) (key : String) (format : Value → Option Text) (empty : Text) : Option Text := do
  let items ← items_field result key
  if items.isEmpty then return empty
  else return join ['\n'] (← items.mapM format)

def format_channel (ch : Value) : Option Text := do
  let name ← text_field ch "name" []
  let members ← texts_field ch "members"
  return "- ".toList ++ name ++ ": ".toList ++ join ", ".toList members

def format_server (result : Value) : Option Text := do
  let channels ← items_field result "channels"
  let agents ← items_field result "agents"
  let channel_lines ← channels.mapM format_channel
  let agent_lines ← agents.mapM text_item
  let parts := (if channels.isEmpty then [] else "## Channels".toList :: channel_lines) ++
    (if agents.isEmpty then [] else "\n## Agents".toList :: agent_lines.map (fun a => "- ".toList ++ a))
  return if parts.isEmpty then "No channels or agents found.".toList else join ['\n'] parts

def acknowledged (result : Value) : Option Text :=
  match result.get "acked".toList with
  | none => some "Acknowledged 0 message(s).".toList
  | some (.int n) => some ("Acknowledged ".toList ++ decimal n ++ " message(s).".toList)
  | some _ => none

/-- What the tool was doing, for its error. -/
def Tool.doing : Tool → String
  | .check_messages => "checking messages"
  | .ack_messages _ => "acknowledging messages"
  | .send_message _ _ => "sending message"
  | .read_history _ _ _ => "reading history"
  | .list_server => "listing server"
  | .list_tasks _ => "listing tasks"
  | .claim_task _ => "claiming task"
  | .complete_task _ => "completing task"

/-- What the tool makes of a result without an error. -/
def Tool.show (result : Value) : Tool → Option Text
  | .check_messages => listed result "messages" format_message "No new messages.".toList
  | .ack_messages _ => acknowledged result
  | .send_message _ _ => text_field result "status" "sent".toList
  | .read_history channel _ after_seq => listed result "messages" format_message
    ("No messages in ".toList ++ channel ++ " after seq ".toList ++ decimal after_seq ++ ".".toList)
  | .list_server => format_server result
  | .list_tasks channel => listed result "tasks" format_task ("No open tasks in ".toList ++ channel ++ ".".toList)
  | .claim_task _ => text_field result "status" "claimed".toList
  | .complete_task _ => text_field result "status" "done".toList

def Tool.failed (tool : Tool) (reason : Text) : Text := "Error ".toList ++ tool.doing.toList ++ ": ".toList ++ reason

/-- The text that the tool returns for a result. -/
def Tool.text (tool : Tool) (result : Value) : Option Text :=
  if (result.get "error".toList).isSome then do
    let reason ← text_field result "error" []
    return tool.failed reason
  else tool.show result

/-- A call of a tool from the request to the text. -/
def call (s : Api.State) (now : Int) (future : Future) (tool : Tool) : Option (Api.State × Text) := do
  let (s, handled) ← handle s now tool.request
  let result ← daemon_result (respond_json (handled.answer future))
  let text ← tool.text result
  return (s, text)

/-! ## What the tools are for -/

/-- A message as Claude is shown it. -/
def shown (m : MessageDict) (delivery_id : Text) : Text :=
  '[' :: join [' '] (["target=".toList ++ m.channel] ++ envelope_part "delivery_id".toList delivery_id ++
    envelope_part "msg".toList m.msg_id ++ envelope_part "time".toList m.time) ++
    "] @".toList ++ m.sender ++ ": ".toList ++ m.content

/-- A response of a request as Claude is shown it. -/
def response_line : Response → Text
  | .replay m => shown m []
  | .task id _ status claimed_by title =>
    "- ".toList ++ id ++ " [".toList ++ status ++ "] ".toList ++ title ++ " (claimed: ".toList ++ claimed_by ++ ")".toList
  | .outcome _ content => content

/-- The lines, or the text for none. -/
def lines (empty : Text) (shown : List Text) : Text := if shown.isEmpty then empty else join ['\n'] shown

/-- The request of the daemon that a tool is for, with the text that it must not leave empty. -/
def Tool.wanted : Tool → Option (Text × Request)
  | .read_history channel limit after_seq => some (channel, .history channel after_seq limit)
  | .list_tasks channel => some (channel, .task_list channel)
  | .claim_task task_id => some (task_id, .task_action .claim task_id)
  | .complete_task task_id => some (task_id, .task_action .done task_id)
  | _ => none

/-- The text for the end of a request. -/
def Tool.told (tool : Tool) : Result → Text
  | .in_flight _ => tool.failed (http_error 500)
  | .not_sent => tool.failed (http_error 500)
  | .responses responses =>
    match tool with
    | .read_history channel _ after_seq =>
      lines ("No messages in ".toList ++ channel ++ " after seq ".toList ++ decimal after_seq ++ ".".toList)
        (responses.map response_line)
    | .list_tasks channel => lines ("No open tasks in ".toList ++ channel ++ ".".toList) (responses.map response_line)
    | _ => []
  | .response (.outcome .claimed _) => "claimed".toList
  | .response (.outcome .done _) => "done".toList
  | .response (.outcome .failed content) => tool.failed content
  | .response _ => []
  | .timeout => tool.failed "no response from server".toList
  | .unknown => "unknown".toList

/-- What a call means: an operation of the daemon, and what Claude is told of it. -/
def meant (s : Api.State) (now : Int) (result : Option Result) (tool : Tool) : Api.State × Text :=
  match tool.wanted with
  | some (needed, _) =>
    (s, if needed.isEmpty then tool.failed (http_error 400)
      else if !s.sender.ready then tool.failed (http_error 503)
      else match result with
        | none => tool.failed (http_error 500)
        | some result => tool.told result)
  | none =>
    match tool with
    | .check_messages =>
      let (agent, messages) := Daemon.check_messages s.agent now
      ({ s with agent := agent }, lines "No new messages.".toList (messages.map (fun (m, mid) => shown m mid)))
    | .ack_messages delivery_ids =>
      match Daemon.ack_messages s.agent delivery_ids with
      | (agent, none) => ({ s with agent := agent }, tool.failed (http_error 400))
      | (agent, some acked) => ({ s with agent := agent }, "Acknowledged ".toList ++ decimal acked ++ " message(s).".toList)
    | .send_message target content =>
      match Sender.handle_send_message s.sender target content with
      | (sender, .error _ status) => ({ s with sender := sender }, tool.failed (http_error status))
      | (sender, .status text) => ({ s with sender := sender }, text)
    | _ =>
      (s, join ['\n'] ((if s.channels.isEmpty then [] else
        "## Channels".toList :: s.channels.map (fun ch => "- ".toList ++ ch ++ ": ".toList)) ++
        ["\n## Agents".toList, "- ".toList ++ s.nick]))

/-- The results that a call of the request can end with. -/
def Suits : Request → Result → Prop
  | _, .in_flight _ => True
  | _, .not_sent => True
  | .history channel _ _, .responses responses =>
    ∀ response ∈ responses, ∃ m : MessageDict, m.channel = channel ∧ response = .replay m
  | .task_list channel, .responses responses =>
    ∀ response ∈ responses, ∃ id status claimed_by title, response = .task id channel status claimed_by title
  | .task_action _ _, .response response => ∃ status content, response = .outcome status content
  | .task_action _ _, .timeout => True
  | .task_action _ _, .unknown => True
  | _, _ => False

/-! ## Requests -/

theorem read_body_dumps (v : Value) : read_body (encode (dumps v)) = some v := by
  obtain ⟨c, t, split, _⟩ := dumps_cons v
  have some : (encode (dumps v)).isEmpty = false := by
    rw [encode_isEmpty, split]
    rfl
  rw [read_body, some, decode_encode]
  exact loads_dumps v

theorem daemon_result_json (v : Value) (status : Nat) : daemon_result (respond_json (v, status)) =
    if 200 ≤ status ∧ status < 300 then some v else some (error (http_error status)) := by
  rw [daemon_result, respond_json]
  split
  · rw [decode_encode]
    exact loads_dumps v
  · rfl

theorem text_failed (tool : Tool) (reason : Text) : tool.text (error reason) = some (tool.failed reason) := rfl

theorem mapM_of_forall {α β : Type} {f : α → Option β} {g : α → β} :
    ∀ {items : List α}, (∀ item ∈ items, f item = some (g item)) → items.mapM f = some (items.map g)
  | [], _ => rfl
  | item :: items, all => by
    obtain ⟨here, later⟩ := List.forall_mem_cons.mp all
    rw [List.mapM_cons, here, mapM_of_forall later]
    rfl

theorem mapM_text_item (texts : List Text) : (texts.map Value.str).mapM text_item = some texts := by
  rw [List.mapM_map, ← congrArg some (List.map_id texts)]
  exact mapM_of_forall (fun _ _ => rfl)

theorem items_field_self (key : String) (items : List Value) : items_field (.obj [field key (.arr items)]) key = some items := by
  simp [items_field, Value.get, field]

theorem listed_map {α : Type} {items : List α} {key : String} {value : α → Value} {format : Value → Option Text}
    {line : α → Text} (each : ∀ item ∈ items, format (value item) = some (line item)) (empty : Text) :
    listed (.obj [field key (.arr (items.map value))]) key format empty = some (lines empty (items.map line)) := by
  have formatted : (items.map value).mapM format = some (items.map line) := by
    rw [List.mapM_map]
    exact mapM_of_forall each
  simp only [listed, items_field_self, formatted, lines, List.isEmpty_map, Option.bind_eq_bind, Option.bind_some, Option.pure_def]
  split <;> rfl

theorem format_pending (m : MessageDict) (mid : Text) : format_message (pending_message (m, mid)) = some (shown m mid) := by
  have whole : format_message (pending_message (m, mid)) = some ('[' :: join [' '] (["target=".toList ++ m.channel] ++
      envelope_part "delivery_id".toList mid ++ envelope_part "msg".toList m.msg_id ++ envelope_part "time".toList m.time ++ []) ++
      "] @".toList ++ m.sender ++ ": ".toList ++ m.content) := rfl
  rw [whole, List.append_nil]
  rfl

theorem format_replay (m : MessageDict) : format_message (response_value (.replay m)) = some (response_line (.replay m)) := by
  have whole : format_message (response_value (.replay m)) = some ('[' :: join [' '] (["target=".toList ++ m.channel] ++
      [] ++ envelope_part "msg".toList m.msg_id ++ envelope_part "time".toList m.time ++ []) ++
      "] @".toList ++ m.sender ++ ": ".toList ++ m.content) := rfl
  rw [whole, List.append_nil]
  rfl

theorem format_server_info {channels : List Value} {channel_lines : List Text}
    (formatted : channels.mapM format_channel = some channel_lines) (nick : Text) :
    format_server (.obj [field "channels" (.arr channels), field "agents" (.arr [.str nick])]) =
      some (join ['\n'] ((if channels.isEmpty then [] else "## Channels".toList :: channel_lines) ++
        ["\n## Agents".toList, "- ".toList ++ nick])) := by
  have first : items_field (.obj [field "channels" (.arr channels), field "agents" (.arr [.str nick])]) "channels" =
      some channels := rfl
  have second : items_field (.obj [field "channels" (.arr channels), field "agents" (.arr [.str nick])]) "agents" =
      some [.str nick] := rfl
  have agents : [Value.str nick].mapM text_item = some [nick] := rfl
  have some (front : List Text) (heading agent : Text) : (front ++ [heading, agent]).isEmpty = false := by
    cases front <;> rfl
  simp only [format_server, first, second, formatted, agents, Option.bind_eq_bind, Option.bind_some, Option.pure_def,
    List.isEmpty_cons, Bool.false_eq_true, if_false, List.map_cons, List.map_nil, some]

/-! ## Calls -/

variable {s : Api.State} {now : Int} {future : Future}

theorem call_of_respond {tool : Tool} {s' : Api.State} {data : Value} {text : Text}
    (handled : handle s now tool.request = some (s', .respond data 200)) (told : tool.text data = some text) :
    call s now future tool = some (s', text) := by
  simp only [call, handled, Handled.answer, daemon_result_json, Nat.reduceLeDiff, Nat.reduceLT, and_self, if_true, told,
    Option.bind_eq_bind, Option.bind_some, Option.pure_def]

theorem call_of_refused {tool : Tool} {s' : Api.State} {reason : Text} {status : Nat} (high : 300 ≤ status)
    (handled : handle s now tool.request = some (s', .respond (error reason) status)) :
    call s now future tool = some (s', tool.failed (http_error status)) := by
  have out : ¬ (200 ≤ status ∧ status < 300) := by omega
  simp only [call, handled, Handled.answer, daemon_result_json, if_neg out, text_failed, Option.bind_eq_bind, Option.bind_some,
    Option.pure_def]

theorem call_check_messages : call s now future .check_messages = some (meant s now future.result .check_messages) := by
  have handled : handle s now Tool.check_messages.request = some (handle_check_messages s now) := by
    have path : Tool.check_messages.request.path = "/messages/pending".toList := rfl
    simp only [handle, do_GET, path, if_true]
    rfl
  exact call_of_respond handled (listed_map (fun item _ => format_pending item.1 item.2) _)

theorem call_ack_messages (delivery_ids : List Text) :
    call s now future (.ack_messages delivery_ids) = some (meant s now future.result (.ack_messages delivery_ids)) := by
  have handled : handle s now (Tool.ack_messages delivery_ids).request =
      handle_ack_messages s (encode (dumps (.obj [field "msg_ids" (.arr (delivery_ids.map .str))]))) := rfl
  have read : texts_field (.obj [field "msg_ids" (.arr (delivery_ids.map .str))]) "msg_ids" = some delivery_ids :=
    mapM_text_item delivery_ids
  rw [handle_ack_messages, read_body_dumps] at handled
  simp only [Option.bind_eq_bind, Option.bind_some, read] at handled
  simp only [meant, Tool.wanted]
  cases acks : Daemon.ack_messages s.agent delivery_ids with
  | mk agent acked =>
    rw [acks] at handled
    cases acked with
    | none => exact call_of_refused (by decide) handled
    | some acked => exact call_of_respond handled rfl

theorem refused_status {d d' : Sender.Daemon} {target content text : Text} {status : Nat}
    (refused : Sender.handle_send_message d target content = (d', .error text status)) : 300 ≤ status := by
  unfold Sender.handle_send_message at refused
  split at refused
  · cases refused
    decide
  · split at refused
    · cases refused
      decide
    · cases refused

theorem call_send_message (target content : Text) :
    call s now future (.send_message target content) = some (meant s now future.result (.send_message target content)) := by
  have handled : handle s now (Tool.send_message target content).request =
      handle_send_message s (encode (dumps (.obj [field "target" (.str target), field "content" (.str content)]))) := rfl
  have first : text_field (.obj [field "target" (.str target), field "content" (.str content)]) "target" [] = some target := rfl
  have second : text_field (.obj [field "target" (.str target), field "content" (.str content)]) "content" [] = some content := rfl
  rw [handle_send_message, read_body_dumps] at handled
  simp only [Option.bind_eq_bind, Option.bind_some, first, second] at handled
  simp only [meant, Tool.wanted]
  cases sends : Sender.handle_send_message s.sender target content with
  | mk sender response =>
    rw [sends] at handled
    cases response with
    | status text => exact call_of_respond handled rfl
    | error text status => exact call_of_refused (refused_status sends) handled

theorem call_list_server : call s now future .list_server = some (meant s now future.result .list_server) := by
  have handled : handle s now Tool.list_server.request = some (s, handle_server_info s) := by
    have other : ¬ "/server/info".toList = "/messages/pending".toList ∧ ¬ "/history".toList <+: "/server/info".toList := by decide
    have path : Tool.list_server.request.path = "/server/info".toList := rfl
    simp only [handle, do_GET, path, if_neg other.1, if_neg other.2, if_true]
    rfl
  have channels : (s.channels.map (fun ch => Value.obj [field "name" (.str ch), field "members" (.arr [])])).mapM format_channel =
      some (s.channels.map (fun ch => "- ".toList ++ ch ++ ": ".toList)) := by
    rw [List.mapM_map]
    apply mapM_of_forall
    intro ch _
    have whole : format_channel (.obj [field "name" (.str ch), field "members" (.arr [])]) =
        some ("- ".toList ++ ch ++ ": ".toList ++ []) := rfl
    rw [Function.comp_apply, whole, List.append_nil]
  refine call_of_respond handled ((format_server_info channels s.nick).trans ?_)
  rw [List.isEmpty_map]

/-! ## Calls with a request -/

/-- The call of a tool that submits a request, but for the text of its result. -/
theorem call_of_wanted {tool : Tool} {needed : Text} {missing : String} {request : Request}
    (wanted : tool.wanted = some (needed, request)) (handled : handle s now tool.request = some (s, submit s needed missing request))
    (told : ∀ result ∈ future.result, (daemon_result (respond_json (Handled.answer future (.submit request)))).bind tool.text =
      some (tool.told result)) :
    call s now future tool = some (meant s now future.result tool) := by
  simp only [meant, wanted]
  rw [submit] at handled
  split at handled
  · next empty =>
    rw [if_pos empty]
    exact call_of_refused (by decide) handled
  · next nonempty =>
    rw [if_neg nonempty]
    split at handled
    · next unready =>
      rw [if_pos unready]
      exact call_of_refused (by decide) handled
    · next ready =>
      rw [if_neg ready]
      have told' : (daemon_result (respond_json (Handled.answer future (.submit request)))).bind tool.text =
          some (match future.result with | none => tool.failed (http_error 500) | some result => tool.told result) := by
        cases ended : future.result with
        | none =>
          have failed : Handled.answer future (.submit request) = (error [], 500) := by rw [Handled.answer, ended]
          rw [failed, daemon_result_json, if_neg (by decide)]
          exact text_failed tool _
        | some result => exact told result ended
      obtain ⟨value, result, text⟩ := Option.bind_eq_some_iff.mp told'
      simp only [call, handled, result, text, Option.bind_eq_bind, Option.bind_some, Option.pure_def]

/-- What Claude is told of a request that has ended as it can end. -/
theorem told_of_suits {tool : Tool} {needed : Text} {request : Request} (wanted : tool.wanted = some (needed, request))
    {result : Result} (ended : future.result = some result) (suits : Suits request result) :
    (daemon_result (respond_json (Handled.answer future (.submit request)))).bind tool.text = some (tool.told result) := by
  have answered {data : Value} (made : Handled.answer future (.submit request) = (data, 200)) :
      (daemon_result (respond_json (Handled.answer future (.submit request)))).bind tool.text = tool.text data := by
    rw [made, daemon_result_json]
    rfl
  have failed {reason : Text} (made : Handled.answer future (.submit request) = (error reason, 500)) :
      (daemon_result (respond_json (Handled.answer future (.submit request)))).bind tool.text =
        some (tool.failed (http_error 500)) := by
    rw [made, daemon_result_json, if_neg (by decide)]
    exact text_failed tool _
  cases result with
  | in_flight text => exact failed (by rw [Handled.answer, ended])
  | not_sent => exact failed (by rw [Handled.answer, ended])
  | timeout => exact answered (by rw [Handled.answer, ended])
  | unknown =>
    rw [answered (by rw [Handled.answer, ended])]
    cases tool with
    | claim_task task_id => rfl
    | complete_task task_id => rfl
    | read_history channel limit after_seq =>
      cases wanted
      exact suits.elim
    | list_tasks channel =>
      cases wanted
      exact suits.elim
    | _ => cases wanted
  | response response =>
    rw [answered (by rw [Handled.answer, ended])]
    have outcome : ∃ status content, response = .outcome status content := by
      cases request with
      | task_action action task_id => exact suits
      | history _ _ _ => exact suits.elim
      | task_list _ => exact suits.elim
    obtain ⟨status, content, rfl⟩ := outcome
    cases tool with
    | claim_task task_id => cases status <;> rfl
    | complete_task task_id => cases status <;> rfl
    | read_history channel limit after_seq =>
      cases wanted
      exact suits.elim
    | list_tasks channel =>
      cases wanted
      exact suits.elim
    | _ => cases wanted
  | responses responses =>
    cases tool with
    | read_history channel limit after_seq =>
      cases wanted
      have each : ∀ response ∈ responses, format_message (response_value response) = some (response_line response) := by
        intro response inside
        obtain ⟨m, _, rfl⟩ := suits response inside
        exact format_replay m
      rw [answered (by rw [Handled.answer, ended])]
      have listing (items : List Value) : (Tool.read_history needed limit after_seq).text (.obj [field "messages" (.arr items)]) =
          listed (.obj [field "messages" (.arr items)]) "messages" format_message
            ("No messages in ".toList ++ needed ++ " after seq ".toList ++ decimal after_seq ++ ".".toList) := rfl
      exact (listing _).trans (listed_map each _)
    | list_tasks channel =>
      cases wanted
      have each : ∀ response ∈ responses, format_task (response_value response) = some (response_line response) := by
        intro response inside
        obtain ⟨id, status, claimed_by, title, rfl⟩ := suits response inside
        rfl
      rw [answered (by rw [Handled.answer, ended])]
      have listing (items : List Value) : (Tool.list_tasks needed).text (.obj [field "tasks" (.arr items)]) =
          listed (.obj [field "tasks" (.arr items)]) "tasks" format_task
            ("No open tasks in ".toList ++ needed ++ ".".toList) := rfl
      exact (listing _).trans (listed_map each _)
    | claim_task task_id =>
      cases wanted
      exact suits.elim
    | complete_task task_id =>
      cases wanted
      exact suits.elim
    | _ => cases wanted

theorem handle_task_action_read (action : Action) (s : Api.State) (task_id : Text) :
    handle_task_action action s (encode (dumps (.obj [field "task_id" (.str task_id)]))) =
      some (submit s task_id "task_id required" (.task_action action task_id)) := by
  have read : text_field (.obj [field "task_id" (.str task_id)]) "task_id" [] = some task_id := rfl
  rw [handle_task_action, read_body_dumps]
  simp only [Option.bind_eq_bind, Option.bind_some, read, Option.pure_def]

theorem first_value_urlencode (params : List (Text × Text)) (name default : Text) :
    first_value (urlencode params) name default = ((params.filter (fun param => !param.2.isEmpty)).lookup name).getD default := by
  rw [first_value, parse_urlencode]

theorem query_of_params {path : String} (clean : ∀ c ∈ path.toList, c ≠ '?' ∧ c ≠ '#') (params : List (String × Text)) :
    query_of (with_params path params) = urlencode (params.map (fun (name, value) => (name.toList, value))) :=
  query_of_urlencode clean _

theorem do_GET_history {path : Text} (here : "/history".toList <+: path) :
    do_GET s now path = (handle_history s path).map (fun handled => (s, handled)) := by
  have other : ¬ path = "/messages/pending".toList := by
    rintro rfl
    exact absurd here (by decide)
  rw [do_GET, if_neg other, if_pos here]

theorem do_GET_tasks {path : Text} (here : "/tasks".toList <+: path) : do_GET s now path = some (s, handle_list_tasks s path) := by
  have first : ¬ path = "/messages/pending".toList := by
    rintro rfl
    exact absurd here (by decide)
  have second : ¬ "/history".toList <+: path := by
    intro other
    rcases List.prefix_or_prefix_of_prefix here other with bad | bad
    · exact absurd bad (by decide)
    · exact absurd bad (by decide)
  have third : ¬ path = "/server/info".toList := by
    rintro rfl
    exact absurd here (by decide)
  rw [do_GET, if_neg first, if_neg second, if_neg third, if_pos here]

theorem decimal_isEmpty (n : Int) : (decimal n).isEmpty = false := by
  obtain ⟨c, t, split, _⟩ := decimal_cons n
  rw [split]
  rfl

theorem handled_history (channel : Text) (limit after_seq : Int) :
    handle s now (Tool.read_history channel limit after_seq).request =
      some (s, submit s channel "channel required" (.history channel after_seq limit)) := by
  let params : List (String × Text) := [("channel", channel), ("after_seq", decimal after_seq), ("limit", decimal limit)]
  have query : query_of (with_params "/history" params) = urlencode (params.map (fun (name, value) => (name.toList, value))) :=
    query_of_params (by simp) params
  have filtered : (params.map (fun (name, value) => (name.toList, value))).filter (fun param => !param.2.isEmpty) =
      (if channel.isEmpty then [] else [("channel".toList, channel)]) ++
        [("after_seq".toList, decimal after_seq), ("limit".toList, decimal limit)] := by
    simp only [params, List.map_cons, List.map_nil, List.filter_cons, decimal_isEmpty, List.filter_nil]
    cases channel with
    | nil => rfl
    | cons c t => rfl
  have first : first_value (query_of (with_params "/history" params)) "channel".toList [] = channel := by
    rw [query, first_value_urlencode, filtered]
    cases channel with
    | nil => rfl
    | cons c t => rfl
  have second : first_value (query_of (with_params "/history" params)) "after_seq".toList ['0'] = decimal after_seq := by
    rw [query, first_value_urlencode, filtered]
    cases channel with
    | nil => rfl
    | cons c t => rfl
  have third : first_value (query_of (with_params "/history" params)) "limit".toList ['5', '0'] = decimal limit := by
    rw [query, first_value_urlencode, filtered]
    cases channel with
    | nil => rfl
    | cons c t => rfl
  have read : handle_history s (with_params "/history" params) =
      some (submit s channel "channel required" (.history channel after_seq limit)) := by
    rw [handle_history]
    simp only [first, second, third, pythonInt_decimal, Option.bind_eq_bind, Option.bind_some, Option.pure_def]
  exact (do_GET_history (List.prefix_append _ _)).trans (congrArg (Option.map (fun handled => (s, handled))) read)

theorem handled_tasks (channel : Text) : handle s now (Tool.list_tasks channel).request =
    some (s, submit s channel "channel required" (.task_list channel)) := by
  have query : query_of (with_params "/tasks" [("channel", channel)]) = urlencode [("channel".toList, channel)] :=
    query_of_params (by simp) _
  have named : first_value (query_of (with_params "/tasks" [("channel", channel)])) "channel".toList [] = channel := by
    rw [query, first_value_urlencode]
    cases channel with
    | nil => rfl
    | cons c t => rfl
  have read : handle_list_tasks s (with_params "/tasks" [("channel", channel)]) =
      submit s channel "channel required" (.task_list channel) := by
    simp only [handle_list_tasks, named]
  exact (do_GET_tasks (List.prefix_append _ _)).trans (congrArg (fun handled => some (s, handled)) read)

/-- A handler checks the text that the request of the tool needs, and submits that request. -/
theorem handled_wanted {tool : Tool} {needed : Text} {request : Request} (wanted : tool.wanted = some (needed, request))
    (s : Api.State) (now : Int) : ∃ missing, handle s now tool.request = some (s, submit s needed missing request) := by
  cases tool with
  | read_history channel limit after_seq =>
    obtain ⟨rfl, rfl⟩ := Prod.mk.inj (Option.some.inj wanted)
    exact ⟨_, handled_history channel limit after_seq⟩
  | list_tasks channel =>
    obtain ⟨rfl, rfl⟩ := Prod.mk.inj (Option.some.inj wanted)
    exact ⟨_, handled_tasks channel⟩
  | claim_task task_id =>
    obtain ⟨rfl, rfl⟩ := Prod.mk.inj (Option.some.inj wanted)
    exact ⟨_, congrArg (Option.map (fun handled => (s, handled))) (handle_task_action_read .claim s task_id)⟩
  | complete_task task_id =>
    obtain ⟨rfl, rfl⟩ := Prod.mk.inj (Option.some.inj wanted)
    exact ⟨_, congrArg (Option.map (fun handled => (s, handled))) (handle_task_action_read .done s task_id)⟩
  | _ => cases wanted

/-- What the tool is for is what its handler submits to the event loop, unless the text is missing or the daemon is not
    ready: then the handler answers an error at once. -/
structure Submits (s : Api.State) (now : Int) (tool : Tool) (needed : Text) (request : Request) : Prop where
  submitted : needed ≠ [] → s.sender.ready = true → handle s now tool.request = some (s, .submit request)
  missing : needed = [] → ∃ text, handle s now tool.request = some (s, .respond (error text) 400)
  unready : needed ≠ [] → s.sender.ready = false →
    handle s now tool.request = some (s, .respond (error "daemon not ready".toList) 503)

theorem submits {tool : Tool} {needed : Text} {request : Request} (wanted : tool.wanted = some (needed, request))
    (s : Api.State) (now : Int) : Submits s now tool needed request := by
  obtain ⟨missing, handled⟩ := handled_wanted wanted s now
  refine ⟨?_, ?_, ?_⟩
  · intro nonempty ready
    rw [handled, submit, if_neg (by simpa using nonempty), if_neg (by simp [ready])]
  · rintro rfl
    exact ⟨missing.toList, handled⟩
  · intro nonempty unready
    rw [handled, submit, if_neg (by simpa using nonempty), if_pos (by simp [unready])]

/-- The request that a call of a tool submits ends as such a request can. -/
def Plausible (future : Future) (tool : Tool) : Prop :=
  ∀ needed request, tool.wanted = some (needed, request) → ∀ result ∈ future.result, Suits request result

/-- A call comes to what it means. -/
theorem call_eq (s : Api.State) (now : Int) (future : Future) (tool : Tool) (suits : Plausible future tool) :
    call s now future tool = some (meant s now future.result tool) := by
  have told {needed : Text} {request : Request} (wanted : tool.wanted = some (needed, request)) :
      ∀ result ∈ future.result, (daemon_result (respond_json (Handled.answer future (.submit request)))).bind tool.text =
        some (tool.told result) :=
    fun result ended => told_of_suits wanted ended (suits needed request wanted result ended)
  cases wanted : tool.wanted with
  | some pair =>
    obtain ⟨needed, request⟩ := pair
    obtain ⟨missing, handled⟩ := handled_wanted wanted s now
    exact call_of_wanted wanted handled (told wanted)
  | none =>
    cases tool with
    | check_messages => exact call_check_messages
    | ack_messages delivery_ids => exact call_ack_messages delivery_ids
    | send_message target content => exact call_send_message target content
    | list_server => exact call_list_server
    | _ => cases wanted

end Aircd.Bridge
