import SalesAgent.Lib.NamedObjects
import SalesAgent.Lib.Runs
import SalesAgent.Signing.Capture
import SalesAgent.Webhooks.Registration

/-!
# Tasks of the A2A server

`SendMessage` invokes one skill and answers with a task, which the server keeps in memory
and hands out again to `tasks/get`; `tasks/cancel` writes to it.  The handler runs on one
event loop: a call runs without interruption up to the point where it awaits the skill, and
other calls run while it waits.  When the skill answers, the call writes to the task object
it holds, whatever was done to it in between.

**Contents.**
* `scanParts`: which skill a message invokes, and with what.
* `onMessageSend`, `Sent.answered`: a call up to its wait, and after it.
* `onGetTask`, `onCancelTask`: what is read and written by name.
* `step`: the events of the handler.
-/

namespace SalesAgent
namespace A2a

open Idempotency Runs
open Webhooks (truthy pyStr)

/-- `Part` -/
inductive Part
  | text (text : String)
  | data (value : Json)
  /-- raw bytes or a URL -/
  | file (content : String)
  deriving DecidableEq

/-- The part of a message's configuration that the handler reads. -/
structure SendConfiguration where
  taskPushNotificationConfig : Option Json
  deriving DecidableEq

/-- `SendMessageRequest`; texts of a protocol buffer are empty where they are not given. -/
structure SendMessageRequest where
  messageId : String
  contextId : String
  parts : List Part
  configuration : Option SendConfiguration
  deriving DecidableEq

/-- `TaskState` -/
inductive TaskState
  | unspecified
  | submitted
  | working
  | completed
  | failed
  | canceled
  | inputRequired
  | rejected
  | authRequired
  deriving DecidableEq

/-- `LibraryTaskStatus` -/
inductive LibraryTaskStatus
  | submitted
  | working
  | inputRequired
  | completed
  | canceled
  | failed
  | rejected
  | authRequired
  | unknown
  deriving DecidableEq

/-- The member with a value. -/
def LibraryTaskStatus.ofValue : String → Option LibraryTaskStatus
  | "submitted" => some .submitted
  | "working" => some .working
  | "input-required" => some .inputRequired
  | "completed" => some .completed
  | "canceled" => some .canceled
  | "failed" => some .failed
  | "rejected" => some .rejected
  | "auth-required" => some .authRequired
  | "unknown" => some .unknown
  | _ => none

/-- `_TASK_STATE_BY_ADCP_STATUS` -/
def taskStateByAdcpStatus : LibraryTaskStatus → TaskState
  | .submitted => .submitted
  | .working => .working
  | .inputRequired => .inputRequired
  | .completed => .completed
  | .canceled => .canceled
  | .failed => .failed
  | .rejected => .rejected
  | .authRequired => .authRequired
  | .unknown => .unspecified

/-- `Message`, of the agent. -/
structure AgentMessage where
  messageId : String
  contextId : String
  taskId : String
  parts : List Part
  deriving DecidableEq

/-- `TaskStatus` -/
structure TaskStatus where
  state : TaskState
  message : Option AgentMessage := none
  deriving DecidableEq

/-- `Artifact` -/
structure Artifact where
  artifactId : String
  name : String
  parts : List Part
  deriving DecidableEq

/-- `Task` -/
structure Task where
  id : String
  contextId : String
  status : TaskStatus
  artifacts : List Artifact
  /-- the metadata `request_text` -/
  requestText : String
  /-- the metadata `skill` -/
  skill : Json
  deriving DecidableEq

/-- What went wrong outside of the skill, or where a skill raised past its boundary. -/
inductive ProcessingFault
  /-- the call context has no headers -/
  | missingHeaders
  /-- the skill is a list or an object, which no dictionary can be asked for -/
  | unhashableSkill
  | missingStatus
  | unknownStatus (status : Json)
  /-- the message of the answer is not a text -/
  | messageNotText
  | raised (error : String)
  deriving DecidableEq

/-- `A2AError` -/
inductive A2AError
  | pushNotificationNotSupported
  | invalidRequest (message : String)
  | methodNotFound (message : String)
  | taskNotFound (message : String) (taskId : String)
  | internal (message : String) (data : Json)
  deriving DecidableEq

/-- What the handler is wired to: the tools with whether A2A reaches them, Python's text of
a container, and the failure response of a fault, with the message of its first error. -/
structure Agent where
  tools : List (String × Bool)
  reprOf : Json → String
  failureResponse : ProcessingFault → Json
  failureMessage : ProcessingFault → String

/-! ### Reading the message -/

/-- What the loop over the parts has found; no skill is `null`. -/
structure Scan where
  textParts : List String
  skill : Json
  parameters : Json
  deriving DecidableEq

/-- The payload of an invocation: `input`, or where that is falsy `parameters`. -/
def parametersOf
    (data : Fields) : Json :=
  match data.lookup "input" with
  | none => (data.lookup "parameters").getD (.obj [])
  | some input => if truthy input then input else (data.lookup "parameters").getD (.obj [])

/-- One part of the message. -/
def scanPart
    (scan : Scan) : Part → Except A2AError Scan
  | .text text =>
      if text ≠ "" then .ok { scan with textParts := scan.textParts ++ [text] } else .ok scan
  | .data (.obj data) =>
      match data.lookup "skill" with
      | none => .ok scan
      | some skill =>
          if scan.skill ≠ .null then
            .error (.invalidRequest
              "One skill per message. Send each skill invocation as its own message.")
          else
            .ok { scan with skill := skill, parameters := parametersOf data }
  | _ => .ok scan

/-- The loop over the parts of a message. -/
def scanParts
    (parts : List Part) : Except A2AError Scan :=
  parts.foldlM scanPart { textParts := [], skill := .null, parameters := .obj [] }

/-- `_refuse_envelope_push_config` -/
def refuseEnvelopePushConfig
    (params : SendMessageRequest) : Except A2AError Unit :=
  match params.configuration.bind (fun c => c.taskPushNotificationConfig) with
  | none => .ok ()
  | some _ => .error .pushNotificationNotSupported

/-- `on_message_send` up to the task it creates: the invocation, or why there is none. -/
def invocationOf
    (params : SendMessageRequest) : Except A2AError Scan :=
  match refuseEnvelopePushConfig params with
  | .error e => .error e
  | .ok () =>
      match scanParts params.parts with
      | .error e => .error e
      | .ok scan =>
          if scan.skill = .null then
            .error (.invalidRequest
              ("This agent is invoked by explicit skill. Send a data part carrying "
                ++ "\x7b'skill': <name>, 'input': \x7b...\x7d\x7d; "
                ++ "a text-only message names no skill."))
          else
            .ok scan

/-- The task of an invocation, as it is stored. -/
def newTask
    (params : SendMessageRequest)
    (scan : Scan)
    (taskId : String) : Task where
  id := taskId
  contextId :=
    if params.contextId ≠ "" then params.contextId
    else if params.messageId ≠ "" then params.messageId
    else "ctx_" ++ taskId
  status := { state := .working }
  artifacts := []
  requestText := Signing.strip (String.intercalate " " scan.textParts)
  skill := scan.skill

/-! ### A call and its task -/

/-- Where the call that created a task is. -/
inductive Call
  /-- it awaits the skill, which it asked with these parameters -/
  | awaiting (skill : String) (parameters : Json)
  | ended
  deriving DecidableEq

/-- A task object, with the call that holds it. -/
structure Sent where
  task : Task
  call : Call
  deriving DecidableEq

/-- Write a status over the task's. -/
def Task.withStatus
    (task : Task)
    (status : TaskStatus) : Task :=
  { task with status := status }

/-- What a call is answered. -/
inductive Reply
  | task (task : Task)
  | refused (error : A2AError)
  /-- the call waits -/
  | pending
  /-- nobody is there to be answered -/
  | gone
  deriving DecidableEq

/-- The answer of `except Exception`. -/
def Agent.processingFailed
    (agent : Agent)
    (fault : ProcessingFault) : A2AError :=
  .internal ("message processing failed: " ++ agent.failureMessage fault)
    (agent.failureResponse fault)

/-- What asking for a skill comes to, before anything is awaited. -/
inductive Dispatch
  | await (skill : String)
  | refuse (error : A2AError)
  | fault (fault : ProcessingFault)
  deriving DecidableEq

/-- The refusal of a skill that is not there, which names the skills that are. -/
def Agent.unknownSkill
    (agent : Agent)
    (skill : Json) : A2AError :=
  let available := (agent.tools.filter (fun tool => tool.2)).map (fun tool => Json.str tool.1)
  .methodNotFound ("Unknown skill '" ++ pyStr agent.reprOf skill ++ "'. Available skills: "
    ++ agent.reprOf (.arr available))

/-- `_dispatch_skill` up to `serve`. -/
def Agent.dispatchSkill
    (agent : Agent) : Json → Dispatch
  | .str name =>
      if agent.tools.lookup name = some true then .await name
      else .refuse (agent.unknownSkill (.str name))
  | .arr _ => .fault .unhashableSkill
  | .obj _ => .fault .unhashableSkill
  | skill => .refuse (agent.unknownSkill skill)

/-- What `serve` comes to. -/
inductive ServeAnswer
  | response (wire : Fields)
  /-- `AdcpFailure`, with the response it carries -/
  | failure (wire : Fields)
  | raised (error : String)
  deriving DecidableEq

/-- `_dispatch_skill` after `serve`. -/
def dispatched : ServeAnswer → Except ProcessingFault Fields
  | .response wire => .ok wire
  | .failure wire => .ok wire
  | .raised error => .error (.raised error)

/-- `LibraryTaskStatus(result["status"])` -/
def statusOf
    (result : Fields) : Except ProcessingFault LibraryTaskStatus :=
  match result.lookup "status" with
  | none => .error .missingStatus
  | some (.str value) =>
      match LibraryTaskStatus.ofValue value with
      | none => .error (.unknownStatus (.str value))
      | some status => .ok status
  | some status => .error (.unknownStatus status)

/-- `_result_parts` -/
def resultParts
    (result : Fields) : Except ProcessingFault (List Part) :=
  match result.lookup "message" with
  | none => .ok [.data (.obj result)]
  | some (.str message) =>
      if message ≠ "" then .ok [.text message, .data (.obj result)]
      else .ok [.data (.obj result)]
  | some message =>
      if truthy message then .error .messageNotText else .ok [.data (.obj result)]

/-- What a result makes of the task that waited for it. -/
def Task.concluded
    (task : Task)
    (skill : String)
    (messageId : String)
    (result : Fields) : Except ProcessingFault Task :=
  match statusOf result with
  | .error fault => .error fault
  | .ok status =>
      match resultParts result with
      | .error fault => .error fault
      | .ok parts =>
          if status = .submitted then
            .ok (task.withStatus
              { state := .submitted
                message := some
                  { messageId := messageId
                    contextId := task.contextId
                    taskId := task.id
                    parts := parts } })
          else
            .ok { task with
              artifacts := task.artifacts ++ [⟨"skill_result_1", skill ++ "_result", parts⟩]
              status := { state := taskStateByAdcpStatus status } }

/-- The task after the skill answered, or why that failed. -/
def Task.finished
    (task : Task)
    (skill : String)
    (messageId : String)
    (answer : ServeAnswer) : Except ProcessingFault Task :=
  match dispatched answer with
  | .error fault => .error fault
  | .ok result => task.concluded skill messageId result

/-- The rest of `on_message_send`, from the answer of the skill on. -/
def Sent.answered
    (messageId : String)
    (answer : ServeAnswer)
    (sent : Sent) : Sent :=
  match sent.call with
  | .ended => sent
  | .awaiting skill _ =>
      match sent.task.finished skill messageId answer with
      | .ok task => ⟨task, .ended⟩
      | .error _ => ⟨sent.task.withStatus { state := .failed }, .ended⟩

/-- What the caller is answered then. -/
def Agent.answerReply
    (agent : Agent)
    (messageId : String)
    (answer : ServeAnswer)
    (sent : Sent) : Reply :=
  match sent.call with
  | .ended => .gone
  | .awaiting skill _ =>
      match sent.task.finished skill messageId answer with
      | .ok task => .task task
      | .error fault => .refused (agent.processingFailed fault)

/-- The call was cancelled while it waited; it writes nothing more. -/
def Sent.abandoned
    (sent : Sent) : Sent :=
  { sent with call := .ended }

/-- `on_cancel_task`, once it has its task. -/
def Sent.cancelled
    (sent : Sent) : Sent :=
  { sent with task := sent.task.withStatus { state := .canceled } }

/-! ### The handler -/

/-- `AdCPRequestHandler.tasks`, with the task objects that calls hold. -/
abbrev Handler :=
  NamedObjects String Sent

/-- The task object of an invocation when its call first waits or ends, and the reply. -/
def Agent.opened
    (agent : Agent)
    (params : SendMessageRequest)
    (hasHeaders : Bool)
    (taskId : String)
    (scan : Scan) : Sent × Reply :=
  let task := newTask params scan taskId
  let failed := task.withStatus { state := .failed }
  if hasHeaders then
    match agent.dispatchSkill scan.skill with
    | .await skill => (⟨task, .awaiting skill scan.parameters⟩, .pending)
    | .refuse error => (⟨task, .ended⟩, .refused error)
    | .fault fault => (⟨failed, .ended⟩, .refused (agent.processingFailed fault))
  else
    (⟨failed, .ended⟩, .refused (agent.processingFailed .missingHeaders))

/-- `on_message_send` up to its wait. -/
def Agent.onMessageSend
    (agent : Agent)
    (params : SendMessageRequest)
    (hasHeaders : Bool)
    (taskId : String)
    (handler : Handler) : Handler × Reply :=
  match invocationOf params with
  | .error error => (handler, .refused error)
  | .ok scan =>
      let opened := agent.opened params hasHeaders taskId scan
      (handler.bind taskId opened.1, opened.2)

/-- `_get_task_or_raise` -/
def getTaskOrRaise
    (handler : Handler)
    (taskId : String) : Except A2AError Task :=
  match handler.find taskId with
  | none => .error (.taskNotFound ("Task not found: " ++ taskId) taskId)
  | some sent => .ok sent.task

/-- `on_get_task` -/
def onGetTask
    (handler : Handler)
    (taskId : String) : Reply :=
  match getTaskOrRaise handler taskId with
  | .error error => .refused error
  | .ok task => .task task

/-- `on_cancel_task` -/
def onCancelTask
    (handler : Handler)
    (taskId : String) : Handler × Reply :=
  match getTaskOrRaise handler taskId with
  | .error error => (handler, .refused error)
  | .ok task =>
      (handler.changeNamed taskId Sent.cancelled, .task (task.withStatus { state := .canceled }))

/-- What happens to the handler. -/
inductive Event
  /-- a call of `on_message_send`, with the identifier it draws -/
  | messageSend (params : SendMessageRequest) (hasHeaders : Bool) (taskId : String)
  /-- the skill that the call holding this object awaits answers -/
  | answered (call : Nat) (messageId : String) (answer : ServeAnswer)
  /-- the call holding this object is cancelled while it waits -/
  | abandoned (call : Nat)
  | getTask (taskId : String)
  | cancelTask (taskId : String)

/-- The call holding this object waits. -/
def waits
    (handler : Handler)
    (call : Nat) : Bool :=
  match handler.objects[call]? with
  | some ⟨_, .awaiting _ _⟩ => true
  | _ => false

/-- One event, with what it answers; a call that does not wait is not answered. -/
def Agent.step
    (agent : Agent)
    (handler : Handler) : Event → Option (Handler × Reply)
  | .messageSend params hasHeaders taskId =>
      some (agent.onMessageSend params hasHeaders taskId handler)
  | .answered call messageId answer =>
      if waits handler call then
        (handler.objects[call]?).map (fun sent =>
          (handler.change call (Sent.answered messageId answer),
            agent.answerReply messageId answer sent))
      else
        none
  | .abandoned call =>
      if waits handler call then some (handler.change call Sent.abandoned, .gone) else none
  | .getTask taskId => some (handler, onGetTask handler taskId)
  | .cancelTask taskId => some (onCancelTask handler taskId)

/-- The steps of the handler. -/
def Agent.Step
    (agent : Agent)
    (handler : Handler)
    (event : Event)
    (handler' : Handler) : Prop :=
  ∃ reply, agent.step handler event = some (handler', reply)

end A2a
end SalesAgent
