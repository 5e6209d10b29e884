import Aircd.Agreement
import Aircd.Served

/-!
# What Claude is told of a task

A claim or a done from the tool that Claude calls to the table of tasks, and back:
the HTTP request to the daemon, the command to the server, the notice that answers
it, the call that waits for it, and the text that the tool returns.
-/
namespace Aircd.Dialogue
open Aircd.Runs Aircd.Text Aircd.Daemon
open Aircd.Bridge (Tool Suits http_error)
open Aircd.Server (Config plain)

def tool_of (action : Action) (task_id : Text) : Tool :=
  match action with
  | .claim => .claim_task task_id
  | .done => .complete_task task_id

/-- What the tool returns when all has gone well. -/
def success_text : Action → Text
  | .claim => "claimed".toList
  | .done => "done".toList

/-- The server has run the command of the call for the principal of a session of the daemon, with or without success. -/
def Executed (s : State) (id : Nat) (action : Action) (task_id : Text) (accepted : Bool) : Prop :=
  ∃ x ∈ s.executed, x.call = id ∧ x.session ∈ s.dialled ∧ x.op.kind = kind_of action ∧ x.op.id = task_id ∧
    (∃ principal, s.server.world.principal x.session = some principal ∧ x.op.principal = some principal.id) ∧
    x.accepted = accepted

/-- What the text says of the end of the call, and what is so at the server. -/
def Learns (s : State) (id : Nat) (action : Action) (task_id text : Text) : Result → Prop
  | .response (.outcome .failed content) =>
    text = (tool_of action task_id).failed content ∧ Executed s id action task_id false
  | .response _ => text = success_text action ∧ Executed s id action task_id true
  | .timeout => text = (tool_of action task_id).failed "no response from server".toList
  | .unknown => text = "unknown".toList
  | _ => text = (tool_of action task_id).failed (http_error 500)

variable {cfg : Config} {nick : Text} {s : State} {id : Nat} {action : Action} {task_id : Text} {result : Result} {e : Event}

/-! ## The end of a call -/

theorem collected_step (agreed : Agreed nick s) (collected : Loop.Collected s.daemon) :
    Loop.Collected (step cfg nick s e).daemon := by
  rcases daemon_step cfg nick s e with same | ⟨e', advanced, _⟩
  · rw [same]
    exact collected
  · rw [advanced]
    exact collected.step agreed.calls agreed.numbered

theorem collected_start (db : Store.Db) : Loop.Collected (start db).daemon where
  registered kind key object found := by cases found
  ended id request result ended := by cases ended

theorem wanted_of (action : Action) (task_id : Text) :
    (tool_of action task_id).wanted = some (task_id, .task_action action task_id) := by
  cases action <;> rfl

/-- A text of an error is that of no success. -/
theorem failed_ne (tool : Tool) (reason : Text) (action : Action) : tool.failed reason ≠ success_text action := by
  have error : (tool.failed reason).head? = some 'E' := rfl
  have success : (success_text action).head? ≠ some 'E' := by cases action <;> decide
  intro same
  exact success (same ▸ error)

/-- What the tool makes of the end of a call is what its command has come to. -/
theorem learns_told (suits : Suits (.task_action action task_id) result)
    (justified : ∀ response, result = .response response → Justified s id action task_id response) :
    Learns s id action task_id ((tool_of action task_id).told result) result := by
  cases result with
  | in_flight error => rfl
  | not_sent => rfl
  | responses responses => exact suits.elim
  | timeout => rfl
  | unknown => rfl
  | response response =>
    obtain ⟨status, content, rfl⟩ := suits
    obtain ⟨executed, failed | success⟩ := justified _ rfl
    · subst failed
      exact ⟨rfl, executed⟩
    · subst success
      cases action with
      | claim => exact ⟨rfl, executed⟩
      | done => exact ⟨rfl, executed⟩

theorem executed_of_success {text : Text} (learns : Learns s id action task_id text result) (success : text = success_text action) :
    Executed s id action task_id true := by
  have not_failed (reason : Text) : text ≠ (tool_of action task_id).failed reason :=
    fun same => failed_ne _ reason action (same.symm.trans success)
  cases result with
  | in_flight error => exact absurd learns (not_failed _)
  | not_sent => exact absurd learns (not_failed _)
  | responses responses => exact absurd learns (not_failed _)
  | timeout => exact absurd learns (not_failed _)
  | unknown =>
    have unknown : success_text action = "unknown".toList := success.symm.trans learns
    cases action <;> exact absurd unknown (by decide)
  | response response =>
    cases response with
    | outcome status content =>
      cases status with
      | failed => exact absurd learns.1 (not_failed _)
      | claimed => exact learns.2
      | done => exact learns.2
    | replay m => exact learns.2
    | task id channel status claimed_by title => exact learns.2

/-! ## Whole runs -/

/-- In every run without a dispute, what the tool tells Claude of a claim or a done is what the server has made of
    the command of that very call; and it tells of a success only when there has been one, whatever the state that
    the HTTP handler finds. The call is the one whose request the handler submits. -/
theorem outcome_reaches_claude (cfg : Config) (nick : Text) (db : Store.Db) (events : List Event)
    (undisputed : AllSteps (step cfg nick) (Undisputed cfg nick) (start db) events) (id : Nat) (action : Action) (task_id : Text)
    (result : Result) (ended : (run (step cfg nick) (start db) events).daemon.calls id = .ended (.task_action action task_id) result)
    (t : Api.State) (now : Int) (raised : Text) :
    let s := run (step cfg nick) (start db) events
    Bridge.Submits t now (tool_of action task_id) task_id (.task_action action task_id) ∧
    ∃ text, Bridge.call t now ⟨some result, raised⟩ (tool_of action task_id) = some (t, text) ∧
      (text = success_text action → Executed s id action task_id true) ∧
      (t.sender.ready = true → task_id ≠ [] → Learns s id action task_id text result) := by
  intro s
  have both : Agreed nick s ∧ Loop.Collected s.daemon :=
    run_invariant_of (fun s e (both : Agreed nick s ∧ Loop.Collected s.daemon) here =>
      ⟨both.1.step e here, collected_step both.1 both.2⟩) events ⟨agreed_start db, collected_start db⟩ undisputed
  have suits : Suits (.task_action action task_id) result := both.2.ended id _ result ended
  have learns := learns_told suits (fun response same => both.1.told.results id action task_id response (same ▸ ended))
  have called := Bridge.call_eq t now ⟨some result, raised⟩ (tool_of action task_id) (by
    intro needed request wanted result' member
    rw [wanted_of] at wanted
    cases wanted
    cases member
    exact suits)
  have meaning : Bridge.meant t now (some result) (tool_of action task_id) =
      (t, if task_id.isEmpty then (tool_of action task_id).failed (http_error 400)
        else if !t.sender.ready then (tool_of action task_id).failed (http_error 503)
        else (tool_of action task_id).told result) := by
    simp only [Bridge.meant, wanted_of]
  refine ⟨Bridge.submits (wanted_of action task_id) t now, _, called.trans (congrArg some meaning), ?_, ?_⟩
  · intro success
    split at success
    · exact absurd success (failed_ne _ _ _)
    · split at success
      · exact absurd success (failed_ne _ _ _)
      · exact executed_of_success learns success
  · intro ready nonempty
    rw [if_neg (by simpa using nonempty), if_neg (by simp [ready])]
    exact learns

/-- The run in which Alice claims the task of Bob, whose lease is over. -/
theorem undisputed_claimed : AllSteps (step plain "alice".toList) (Undisputed plain "alice".toList) (start held_by_bob)
    (dials ++ [.loop (.call 0 Loop.claiming true)] ++ claims) := by
  have begins : Undisputed plain "alice".toList alice_dials (.loop (.call 0 Loop.claiming true)) :=
    fun _ _ r way => (quiet_alice_dials r way).elim
  have calm : AllSteps (step plain "alice".toList) (Undisputed plain "alice".toList) (start held_by_bob) dials :=
    ⟨trivial, trivial, trivial, trivial⟩
  rw [List.append_assoc, allSteps_append]
  exact ⟨calm, begins, undisputed_of_lone lonely_alice_dials alone_claims.1⟩

theorem outcome_reaches_claude_claimed :
    Bridge.call Bridge.connected 0 ⟨some (.response (.outcome .claimed "TASK t1 claimed by alice: fix".toList)), []⟩
        (.claim_task "t1".toList) = some (Bridge.connected, "claimed".toList) ∧
      Executed claimed 0 .claim "t1".toList true := by
  have ended := alone_claims.2
  unfold claimed at ended ⊢
  obtain ⟨_, text, called, _, learns⟩ := outcome_reaches_claude plain "alice".toList held_by_bob _ undisputed_claimed 0 .claim
    "t1".toList _ ended Bridge.connected 0 []
  obtain ⟨rfl, executed⟩ := learns rfl (by decide)
  exact ⟨called, executed⟩

end Aircd.Dialogue
