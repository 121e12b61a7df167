import Mathlib
import Wireform.Proofs.Session.Saving

/-!
# Clients that share a session

The messages of several clients are handled in any order on one store.  Where
compiled source is not written to files, a reply depends on the history through
the number of a stored artifact alone: the other handlers read nothing of the
world.  So each client is answered as if it were alone, but for the numbers of
its artifacts, and these are given out in order over all clients.
-/

namespace Wireform

variable {ι : Type}

/-- How a raw message of a client was handled: the result, and the calls of the
client's publisher. -/
structure Handled (ι : Type) where
  client : ι
  raw : String
  result : Except SessionError Unit
  calls : List ServerMessage

namespace Session

variable {session : Session} {raw : String} {message : ClientMessage}

/-- The handling of a raw message by a publisher without effects of its own. -/
def handlePurely (session : Session)
    (publish : ServerMessage → Except SessionError Unit) (raw : String)
    (world : World) : (Except SessionError Unit × World) × List ServerMessage :=
  Id.run (session.handling (fun message => pure (publish message)) raw world)

/-- The handling of the raw messages of clients, one after the other. -/
def serve (session : Session)
    (publish : ι → ServerMessage → Except SessionError Unit) :
    World → List (ι × String) → List (Handled ι)
  | _, [] => []
  | world, (client, raw) :: rest =>
    let ((result, after), calls) := session.handlePurely (publish client) raw world
    ⟨client, raw, result, calls⟩ :: session.serve publish after rest

/-- The artifacts that are reported as stored. -/
def reported (handled : List (Handled ι)) : List CodeArtifact :=
  handled.flatMap fun one => one.calls.filterMap ServerMessage.artifact?

/-- Whether a raw message can be decoded and stores code. -/
def storesCode (raw : String) : Bool :=
  ((ClientMessage.decode raw).toOption.bind ClientMessage.saves).isSome

/-! ## One message -/

theorem handlePurely_of_ok {world after : World} {reply : ServerMessage}
    (hanswer : session.answer raw world = (.ok reply, after))
    (publish : ServerMessage → Except SessionError Unit) :
    session.handlePurely publish raw world =
      ((publish reply, after), [reply]) := by
  rw [handlePurely, handling_of_ok hanswer]
  rfl

theorem handlePurely_of_error {world after : World} {error : SessionError}
    (hanswer : session.answer raw world = (.error error, after))
    (publish : ServerMessage → Except SessionError Unit) :
    session.handlePurely publish raw world = ((.error error, after), []) := by
  rw [handlePurely, handling_of_error hanswer]
  rfl

/-- Without a directory a compilation reads and writes no files. -/
theorem run_access_none (source name : String) (files : FileTree) :
    Compilation.run FileTree.access none source name files =
      (Compilation.check source name, files) := by
  unfold Compilation.check Compilation.run Compilation.ofDiagnostics
  split_ifs
  · rfl
  · cases Compilation.diagnostics source <;> rfl

/-- Only a reply that stores code depends on the world. -/
theorem respond_fst_eq (hdirectory : session.outputDirectory = none)
    (hsaves : message.saves = none) (world other : World) :
    (session.respond message world).1 = (session.respond message other).1 := by
  cases message with
  | generateCode request => rfl
  | compileCode request =>
    rw [respond, respond, hdirectory, run_access_none, run_access_none]
  | analyzeMockup request => rfl
  | saveCode new => cases hsaves

theorem answer_fst_eq (hdirectory : session.outputDirectory = none)
    (hstores : storesCode raw = false) (world other : World) :
    (session.answer raw world).1 = (session.answer raw other).1 := by
  cases hdecode : ClientMessage.decode raw with
  | ok message =>
    have hnone : message.saves = none := by
      simpa [storesCode, hdecode, Except.toOption] using hstores
    rw [answer_of_decode hdecode, answer_of_decode hdecode,
      respond_fst_eq hdirectory hnone world other]
  | error fault =>
    cases hreply : failureReply (eventName raw) fault with
    | some reply =>
      rw [answer_of_failureReply hdecode hreply,
        answer_of_failureReply hdecode hreply]
    | none =>
      rw [answer_of_no_failureReply hdecode hreply,
        answer_of_no_failureReply hdecode hreply]

theorem store_answer_of_not_storesCode (session : Session)
    (hstores : storesCode raw = false) (world : World) :
    (session.answer raw world).2.store = world.store := by
  rw [store_answer]
  split
  · next new hdecode =>
    rw [storesCode, hdecode] at hstores
    cases hstores
  · rfl

/-- A message that stores no code is handled alike in every world, leaves the
store as it is, and reports no artifact. -/
theorem handlePurely_of_not_storesCode
    (hdirectory : session.outputDirectory = none)
    (hstores : storesCode raw = false)
    (publish : ServerMessage → Except SessionError Unit) :
    ∃ result calls, calls.filterMap ServerMessage.artifact? = []
      ∧ ∀ world, ∃ after, after.store = world.store
        ∧ session.handlePurely publish raw world = ((result, after), calls) := by
  have hstore := store_answer_of_not_storesCode session hstores
  -- Any world shows the answer, which is the same in all others.
  let sample : World := { files := .empty [] }
  cases hsample : (session.answer raw sample).1 with
  | ok reply =>
    have hartifact : reply.artifact? = none := by
      have hreported : (session.answer raw sample).1.toOption.bind
          ServerMessage.artifact? = _ := Action.artifacts_answer session raw
      rw [storesCode, Option.isSome_eq_false_iff, Option.isNone_iff_eq_none] at hstores
      rwa [hsample, hstores] at hreported
    refine ⟨publish reply, [reply], by simp [hartifact], fun world => ?_⟩
    refine ⟨(session.answer raw world).2, hstore world, handlePurely_of_ok ?_ publish⟩
    rw [← hsample, answer_fst_eq hdirectory hstores sample world]
  | error error =>
    refine ⟨.error error, [], rfl, fun world => ?_⟩
    refine ⟨(session.answer raw world).2, hstore world,
      handlePurely_of_error ?_ publish⟩
    rw [← hsample, answer_fst_eq hdirectory hstores sample world]

/-- A message that stores code is answered with the artifact under the next
number, where the store is not poisoned. -/
theorem handlePurely_of_storesCode (session : Session)
    (hstores : storesCode raw = true) :
    ∃ new : NewCodeArtifact,
      ∀ (publish : ServerMessage → Except SessionError Unit) (world : World),
        world.store.poisoned = false →
        session.handlePurely publish raw world =
          ((publish (.codeSaved (new.toArtifact world.store.tables.nextArtifact)),
            { world with store := (world.store.createCode new).2 }),
            [.codeSaved (new.toArtifact world.store.tables.nextArtifact)]) := by
  cases hdecode : ClientMessage.decode raw with
  | error fault =>
    rw [storesCode, hdecode] at hstores
    cases hstores
  | ok message =>
    cases message with
    | saveCode new =>
      exact ⟨new, fun publish world hopen => handlePurely_of_ok
        ((answer_of_decode hdecode).trans (respond_saveCode_of_open hopen new)) publish⟩
    | _ =>
      rw [storesCode, hdecode] at hstores
      cases hstores

/-! ## Many messages -/

/-- How a message is handled among those of other clients, as compared to alone:
in the same way, but for the number of an artifact that it stores. -/
structure Undisturbed (publish : ι → ServerMessage → Except SessionError Unit)
    (shared alone : Handled ι) : Prop where
  client : shared.client = alone.client
  raw : shared.raw = alone.raw
  same (hstores : storesCode alone.raw = false) :
    shared.result = alone.result ∧ shared.calls = alone.calls
  numbered (hstores : storesCode alone.raw = true) : ∃ artifact number,
    alone.calls = [.codeSaved artifact]
      ∧ alone.result = publish alone.client (.codeSaved artifact)
      ∧ shared.calls = [.codeSaved { artifact with id := number }]
      ∧ shared.result = publish alone.client (.codeSaved { artifact with id := number })

variable {publish : ι → ServerMessage → Except SessionError Unit}

/-- The handling of a message does not poison a store. -/
theorem poisoned_handlePurely (session : Session)
    (publish : ServerMessage → Except SessionError Unit) (raw : String)
    {world : World} (hopen : world.store.poisoned = false) :
    (session.handlePurely publish raw world).1.2.store.poisoned = false := by
  have hstore : (session.handlePurely publish raw world).1.2 =
      (session.answer raw world).2 := by
    cases hanswer : session.answer raw world with
    | mk outcome after =>
      cases outcome with
      | ok reply => rw [handlePurely_of_ok hanswer]
      | error error => rw [handlePurely_of_error hanswer]
  rw [hstore, store_answer]
  split
  · rw [Store.createCode, Store.poisoned_write, hopen]
  · exact hopen

/-- Two worlds whose stores are not poisoned handle a message alike, but for
numbers. -/
theorem undisturbed_handlePurely (hdirectory : session.outputDirectory = none)
    (client : ι) (raw : String) {world other : World}
    (hopen : world.store.poisoned = false) (hopen' : other.store.poisoned = false) :
    let shared := session.handlePurely (publish client) raw world
    let alone := session.handlePurely (publish client) raw other
    Undisturbed publish ⟨client, raw, shared.1.1, shared.2⟩
      ⟨client, raw, alone.1.1, alone.2⟩ := by
  intro shared alone
  refine ⟨rfl, rfl, fun hstores => ?_, fun hstores => ?_⟩
  · obtain ⟨result, calls, -, hhandled⟩ :=
      handlePurely_of_not_storesCode hdirectory hstores (publish client)
    obtain ⟨after, -, hshared⟩ := hhandled world
    obtain ⟨after', -, halone⟩ := hhandled other
    simp only [shared, alone, hshared, halone, and_self]
  · obtain ⟨new, hhandled⟩ := handlePurely_of_storesCode session hstores
    refine ⟨new.toArtifact other.store.tables.nextArtifact,
      world.store.tables.nextArtifact, ?_⟩
    simp only [shared, alone, hhandled _ _ hopen, hhandled _ _ hopen', true_and]
    exact ⟨rfl, rfl⟩

theorem undisturbed_serve [DecidableEq ι]
    (hdirectory : session.outputDirectory = none) (client : ι)
    (messages : List (ι × String)) {world other : World}
    (hopen : world.store.poisoned = false) (hopen' : other.store.poisoned = false) :
    List.Forall₂ (Undisturbed publish)
      ((session.serve publish world messages).filter (·.client = client))
      (session.serve publish other (messages.filter (·.1 = client))) := by
  induction messages generalizing world other with
  | nil => exact .nil
  | cons message messages ih =>
    obtain ⟨sender, raw⟩ := message
    have hafter := poisoned_handlePurely session (publish sender) raw hopen
    by_cases hsender : sender = client
    · subst sender
      have hafter' := poisoned_handlePurely session (publish client) raw hopen'
      rw [List.filter_cons_of_pos (by simp), serve, serve,
        List.filter_cons_of_pos (by simp)]
      exact .cons (undisturbed_handlePurely hdirectory client raw hopen hopen')
        (ih hafter hafter')
    · rw [List.filter_cons_of_neg (by simpa using hsender), serve,
        List.filter_cons_of_neg (by simpa using hsender)]
      exact ih hafter hopen'

/-- Artifacts are numbered in the order in which their messages are handled. -/
theorem map_id_reported_serve (hdirectory : session.outputDirectory = none)
    (messages : List (ι × String)) {world : World}
    (hopen : world.store.poisoned = false) :
    (reported (session.serve publish world messages)).map (·.id) =
      List.range' world.store.tables.nextArtifact
        (messages.countP fun message => storesCode message.2) := by
  induction messages generalizing world with
  | nil => rfl
  | cons message messages ih =>
    obtain ⟨client, raw⟩ := message
    rw [serve]
    cases hstores : storesCode raw with
    | true =>
      obtain ⟨new, hhandled⟩ := handlePurely_of_storesCode session hstores
      have hnext : (world.store.createCode new).2.tables.nextArtifact =
          world.store.tables.nextArtifact + 1 := by
        rw [Store.createCode_of_open hopen]
        rfl
      have hrest := @ih { world with store := (world.store.createCode new).2 }
        ((Store.poisoned_write _ _).trans hopen)
      have hcount := List.countP_cons_of_pos
        (p := fun message : ι × String => storesCode message.2) (a := (client, raw))
        (l := messages) hstores
      rw [hnext] at hrest
      rw [hhandled _ _ hopen, hcount, List.range'_succ]
      exact congrArg (world.store.tables.nextArtifact :: ·) hrest
    | false =>
      obtain ⟨result, calls, hnone, hhandled⟩ :=
        handlePurely_of_not_storesCode hdirectory hstores (publish client)
      obtain ⟨after, hstore, hequal⟩ := hhandled world
      rw [hequal, List.countP_cons_of_neg (by simp [hstores]), ← hstore,
        ← ih (hstore ▸ hopen), reported, List.flatMap_cons, hnone, List.nil_append,
        reported]

/-- However the messages of clients are mixed, each message is handled as it is
without the other clients, except that an artifact that it stores may have
another number; over all clients these numbers are given out from one on,
without a gap. -/
theorem clients_undisturbed [DecidableEq ι] (session : Session)
    (hdirectory : session.outputDirectory = none)
    (publish : ι → ServerMessage → Except SessionError Unit) (files : FileTree)
    (messages : List (ι × String)) :
    (∀ client, List.Forall₂ (Undisturbed publish)
        ((session.serve publish { files } messages).filter (·.client = client))
        (session.serve publish { files } (messages.filter (·.1 = client))))
      ∧ (reported (session.serve publish { files } messages)).map (·.id) =
        List.range' 1 (messages.countP fun message => storesCode message.2) :=
  ⟨fun client => undisturbed_serve hdirectory client messages rfl rfl,
    map_id_reported_serve hdirectory messages rfl⟩

/-- Two clients store code, with a message between them that nobody decodes. -/
theorem clients_undisturbed_two :
    let save := r#"{"event":"save-code","data":{"code":"c","componentName":"C"}}"#
    let messages := [(true, save), (false, "?"), (false, save)]
    let publish : Bool → ServerMessage → Except SessionError Unit := fun _ _ => .ok ()
    (Session.mk none).outputDirectory = none
      ∧ (∀ client, List.Forall₂ (Undisturbed publish)
          (((Session.mk none).serve publish { files := .empty [] } messages).filter
            (·.client = client))
          ((Session.mk none).serve publish { files := .empty [] }
            (messages.filter (·.1 = client))))
      ∧ (reported ((Session.mk none).serve publish { files := .empty [] } messages)).map
          (·.id) = [1, 2] := by
  intro save messages publish
  obtain ⟨hclients, hnumbers⟩ := clients_undisturbed ⟨none⟩ rfl publish
    (.empty []) messages
  refine ⟨rfl, hclients, hnumbers.trans ?_⟩
  decide +kernel

end Session

end Wireform
