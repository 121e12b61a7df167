import Mathlib
import Wireform.Session

/-!
# The handling of raw messages

A publisher that notes its calls shows all that the handling of a raw message
does: there is one call at most, the result is that of the call, and what
becomes of the world is settled before it.  A message that can be decoded is
answered with its own reply, unless it is to store code and the store is
poisoned.  One that cannot is answered with a failure where its event tells how;
of the four events, this leaves out the storing of code.
-/

namespace Wireform

variable {m : Type → Type} [Monad m]

/-- A publisher that notes the calls that are made of it. -/
def noted (publish : ServerMessage → m (Except SessionError Unit))
    (message : ServerMessage) :
    StateT (List ServerMessage) m (Except SessionError Unit) := fun calls => do
  let result ← publish message
  pure (result, calls ++ [message])

theorem run_noted (publish : ServerMessage → m (Except SessionError Unit))
    (message : ServerMessage) (calls : List ServerMessage) :
    (noted publish message).run calls =
      publish message >>= fun result => pure (result, calls ++ [message]) := rfl

/-- What one call of a publisher comes to: its result, the world afterwards,
and the call. -/
def published (publish : ServerMessage → m (Except SessionError Unit))
    (reply : ServerMessage) (after : World) :
    m ((Except SessionError Unit × World) × List ServerMessage) := do
  let result ← publish reply
  pure ((result, after), [reply])

/-- What an error without any call comes to. -/
def unpublished (error : SessionError) (after : World) :
    m ((Except SessionError Unit × World) × List ServerMessage) :=
  pure ((.error error, after), [])

/-- Whether a message reports a failure.  Stored code has no such report. -/
def ServerMessage.fails : ServerMessage → Bool
  | codeGenerated reply => !reply.success
  | compilationResult result => !result.success
  | mockupAnalyzed analysis => !analysis.success
  | codeSaved _ => false

/-- The events of clients, with the channels that they are answered on. -/
def replyChannels : List (String × String) :=
  [("generate-code", "code-generated"), ("compile-code", "compilation-result"),
   ("analyze-mockup", "mockup-analyzed"), ("save-code", "code-saved")]

namespace Store

variable {store : Store}

theorem createCode_of_open (hopen : store.poisoned = false) (new : NewCodeArtifact) :
    store.createCode new =
      (.ok (store.tables.createCode new).1,
        { store with tables := (store.tables.createCode new).2 }) :=
  write_of_open hopen _

theorem createCode_of_poisoned (hpoisoned : store.poisoned = true)
    (new : NewCodeArtifact) : store.createCode new = (.error .poisoned, store) :=
  write_of_poisoned hpoisoned _

/-- To store code changes a store unless the store is poisoned. -/
theorem createCode_ne_iff (new : NewCodeArtifact) :
    (store.createCode new).2 ≠ store ↔ store.poisoned = false := by
  cases hpoisoned : store.poisoned with
  | false =>
    refine iff_of_true (fun hsame => ?_) rfl
    have hnext := congrArg (fun store : Store => store.tables.nextArtifact) hsame
    simp [createCode_of_open hpoisoned, Tables.createCode] at hnext
  | true =>
    rw [createCode_of_poisoned hpoisoned]
    simp

end Store

namespace Session

variable {session : Session} {world : World} {raw : String} {fault : Json.Fault}

/-- The handling of a raw message, with the calls that it makes. -/
def handling (session : Session)
    (publish : ServerMessage → m (Except SessionError Unit)) (raw : String)
    (world : World) :
    m ((Except SessionError Unit × World) × List ServerMessage) :=
  (session.handle (noted publish) raw world).run []

theorem handling_of_ok [LawfulMonad m] {reply : ServerMessage} {after : World}
    (hanswer : session.answer raw world = (.ok reply, after))
    (publish : ServerMessage → m (Except SessionError Unit)) :
    session.handling publish raw world = published publish reply after := by
  calc session.handling publish raw world
    _ = (noted publish reply >>= fun result => pure (result, after)).run [] := by
      rw [handling, handle, hanswer]
    _ = (noted publish reply).run [] >>=
          fun call => pure ((call.1, after), call.2) := StateT.run_bind ..
    _ = published publish reply after := by
      simp only [run_noted, published, bind_assoc, pure_bind, List.nil_append]

theorem handling_of_error [LawfulMonad m] {error : SessionError} {after : World}
    (hanswer : session.answer raw world = (.error error, after))
    (publish : ServerMessage → m (Except SessionError Unit)) :
    session.handling publish raw world = unpublished error after := by
  simp [handling, handle, hanswer, unpublished]

/-! ## Answers -/

theorem respond_saveCode_of_open (hopen : world.store.poisoned = false)
    (new : NewCodeArtifact) :
    session.respond (.saveCode new) world =
      (.ok (.codeSaved (world.store.tables.createCode new).1),
        { world with store := (world.store.createCode new).2 }) := by
  rw [respond, Store.createCode_of_open hopen]

theorem respond_saveCode_of_poisoned (hpoisoned : world.store.poisoned = true)
    (new : NewCodeArtifact) :
    session.respond (.saveCode new) world = (.error (.store .poisoned), world) := by
  rw [respond, Store.createCode_of_poisoned hpoisoned]

/-- A message has a reply, unless it is to store code and the store is
poisoned. -/
theorem respond_cases (session : Session) (message : ClientMessage) (world : World) :
    (∃ reply after, session.respond message world = (.ok reply, after))
      ∨ (∃ new, message = .saveCode new) ∧ world.store.poisoned = true
        ∧ session.respond message world = (.error (.store .poisoned), world) := by
  cases message with
  | saveCode new =>
    cases hpoisoned : world.store.poisoned with
    | false => exact .inl ⟨_, _, respond_saveCode_of_open hpoisoned new⟩
    | true => exact .inr ⟨⟨new, rfl⟩, rfl, respond_saveCode_of_poisoned hpoisoned new⟩
  | generateCode request | compileCode request | analyzeMockup request =>
    exact .inl ⟨_, _, rfl⟩

theorem answer_of_decode {message : ClientMessage}
    (hdecode : ClientMessage.decode raw = .ok message) :
    session.answer raw world = session.respond message world := by
  simp [answer, hdecode]

theorem answer_of_failureReply {reply : ServerMessage}
    (hdecode : ClientMessage.decode raw = .error fault)
    (hreply : failureReply (eventName raw) fault = some reply) :
    session.answer raw world = (.ok reply, world) := by
  simp [answer, hdecode, hreply]

theorem answer_of_no_failureReply
    (hdecode : ClientMessage.decode raw = .error fault)
    (hreply : failureReply (eventName raw) fault = none) :
    session.answer raw world = (.error (.decode fault), world) := by
  simp [answer, hdecode, hreply]

/-- Only a failure is reported for a message that cannot be decoded. -/
theorem fails_of_failureReply {event : Option String} {reply : ServerMessage}
    (hreply : failureReply event fault = some reply) : reply.fails = true := by
  unfold failureReply at hreply
  split at hreply
  all_goals first | contradiction | obtain rfl := Option.some.inj hreply; rfl

/-- Of all messages only one that stores code changes the store, and it does
what the store does. -/
theorem store_respond (message : ClientMessage) :
    (session.respond message world).2.store =
      match message with
      | .saveCode new => (world.store.createCode new).2
      | _ => world.store := by
  cases message with
  | saveCode new =>
    cases hpoisoned : world.store.poisoned with
    | false => rw [respond_saveCode_of_open hpoisoned]
    | true =>
      have hkept := congrArg Prod.snd (Store.createCode_of_poisoned hpoisoned new)
      rw [respond_saveCode_of_poisoned hpoisoned]
      exact hkept.symm
  | generateCode request | compileCode request | analyzeMockup request => rfl

/-- The store after a raw message. -/
theorem store_answer (session : Session) (raw : String) (world : World) :
    (session.answer raw world).2.store =
      match ClientMessage.decode raw with
      | .ok (.saveCode new) => (world.store.createCode new).2
      | _ => world.store := by
  cases hdecode : ClientMessage.decode raw with
  | ok message =>
    rw [answer_of_decode hdecode, store_respond]
    cases message <;> rfl
  | error fault =>
    cases hreply : failureReply (eventName raw) fault with
    | some reply => rw [answer_of_failureReply hdecode hreply]
    | none => rw [answer_of_no_failureReply hdecode hreply]

theorem eventName_of_parse {value : Json} {event : String}
    (hvalue : Json.parse raw = .ok value)
    (hevent : value.lastMember "event" = some (.string event)) :
    eventName raw = some event := by
  simp [eventName, hvalue, hevent, Json.text]

/-- The reply to a message that cannot be decoded goes to the channel of its
event; there is none where code was to be stored. -/
theorem failureReply_of_event {event channel : String}
    (hchannel : (event, channel) ∈ replyChannels) (fault : Json.Fault) :
    (event ≠ "save-code" → ∃ reply : ServerMessage, reply.channel = channel
        ∧ failureReply (some event) fault = some reply)
      ∧ (event = "save-code" → failureReply (some event) fault = none) := by
  simp only [replyChannels, List.mem_cons, List.not_mem_nil, or_false,
    Prod.mk.injEq] at hchannel
  rcases hchannel with ⟨rfl, rfl⟩ | ⟨rfl, rfl⟩ | ⟨rfl, rfl⟩ | ⟨rfl, rfl⟩
  · exact ⟨fun _ => ⟨_, rfl, rfl⟩, fun hsave => by simp at hsave⟩
  · exact ⟨fun _ => ⟨_, rfl, rfl⟩, fun hsave => by simp at hsave⟩
  · exact ⟨fun _ => ⟨_, rfl, rfl⟩, fun hsave => by simp at hsave⟩
  · exact ⟨fun hsave => absurd rfl hsave, fun _ => rfl⟩

/-- A document that names an event of a client but cannot be decoded is
answered by one failure on the channel of the event, unless the event stores
code: then there is no answer, and the result is the error. -/
theorem undecodable_answered_unless_save (session : Session) (world : World)
    {value : Json} {event channel : String}
    (hvalue : Json.parse raw = .ok value)
    (hevent : value.lastMember "event" = some (.string event))
    (hchannel : (event, channel) ∈ replyChannels)
    (hdecode : ClientMessage.decode raw = .error fault) :
    (event ≠ "save-code" → ∃ reply : ServerMessage,
        reply.channel = channel ∧ reply.fails = true
          ∧ ∀ (m : Type → Type) [Monad m] [LawfulMonad m]
              (publish : ServerMessage → m (Except SessionError Unit)),
            session.handling publish raw world = published publish reply world)
      ∧ (event = "save-code" →
          ∀ (m : Type → Type) [Monad m] [LawfulMonad m]
              (publish : ServerMessage → m (Except SessionError Unit)),
            session.handling publish raw world =
              unpublished (.decode fault) world) := by
  have hname := eventName_of_parse hvalue hevent
  obtain ⟨hanswered, hunanswered⟩ := failureReply_of_event hchannel fault
  rw [← hname] at hanswered hunanswered
  constructor
  · intro hother
    obtain ⟨reply, hreplied, hreply⟩ := hanswered hother
    exact ⟨reply, hreplied, fails_of_failureReply hreply,
      fun _ _ _ => handling_of_ok (answer_of_failureReply hdecode hreply)⟩
  · intro hsave _ _ _
    exact handling_of_error (answer_of_no_failureReply hdecode (hunanswered hsave))

/-- A request for a compilation without its contents is answered on the channel
of compilations. -/
theorem undecodable_answered_unless_save_compile :
    let raw := r#"{"event":"compile-code","data":[]}"#
    Json.parse raw = .ok (.object [("event", .string "compile-code"), ("data", .array [])])
      ∧ ClientMessage.decode raw =
        .error ⟨.wrongLength 0 "struct CompileCodeRequest with 2 elements", some ⟨0, 33⟩⟩
      ∧ ∃ reply : ServerMessage, reply.channel = "compilation-result"
        ∧ reply.fails = true
        ∧ ∀ publish : ServerMessage → Id (Except SessionError Unit),
          handling { } publish raw { files := .empty [] } =
            published publish reply { files := .empty [] } := by
  intro raw
  have hvalue : Json.parse raw = .ok
      (.object [("event", .string "compile-code"), ("data", .array [])]) := by
    cbv
  have hdecode : ClientMessage.decode raw = .error
      ⟨.wrongLength 0 "struct CompileCodeRequest with 2 elements", some ⟨0, 33⟩⟩ := by
    decide +kernel
  obtain ⟨reply, hreplied, hfails, hhandled⟩ :=
    (undecodable_answered_unless_save { } { files := .empty [] } hvalue rfl
      (.tail _ (.head _)) hdecode).1 (by decide)
  exact ⟨hvalue, hdecode, reply, hreplied, hfails, hhandled Id⟩

/-- A request to store code without its contents names its event, but no call
is made of a publisher that works. -/
theorem undecodable_save_unanswered :
    let raw := r#"{"event":"save-code","data":{}}"#
    Json.parse raw = .ok (.object [("event", .string "save-code"), ("data", .object [])])
      ∧ ("save-code", "code-saved") ∈ replyChannels
      ∧ ∃ fault, ClientMessage.decode raw = .error fault
        ∧ handling { } (fun _ => (pure (.ok ()) : Id (Except SessionError Unit))) raw
            { files := .empty [] } =
          ((.error (.decode fault), { files := .empty [] }), []) := by
  intro raw
  have hvalue : Json.parse raw = .ok
      (.object [("event", .string "save-code"), ("data", .object [])]) := by
    cbv
  have hdecode : ClientMessage.decode raw =
      .error ⟨.missingField "code", some ⟨0, 30⟩⟩ := by
    decide +kernel
  have hchannel : ("save-code", "code-saved") ∈ replyChannels := by decide
  have hreply := (failureReply_of_event hchannel
    ⟨.missingField "code", some ⟨0, 30⟩⟩).2 rfl
  rw [← eventName_of_parse hvalue rfl] at hreply
  exact ⟨hvalue, hchannel, _, hdecode,
    handling_of_error (answer_of_no_failureReply hdecode hreply) _⟩

end Session

end Wireform
