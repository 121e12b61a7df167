import Mathlib
import Wireform.Proofs.Store.History
import Wireform.Proofs.Session.Dispatch

/-!
# Saved code

A store is shared by those who operate on it and by sessions.  Whatever they
do, each action stores one artifact at most, and the artifacts are numbered in
the order in which they are stored.  The first artifact for a diagram is the
code of that diagram from then on: neither later code nor what happens to the
diagram replaces it.
-/

namespace Wireform

/-! ## Artifacts in a history -/

/-- The code that a history has stored. -/
def Tables.saved (history : List Operation) : List NewCodeArtifact :=
  history.filterMap Operation.saves

/-- Code with the numbers that it is stored under, from one on. -/
def numbered (saved : List NewCodeArtifact) : List CodeArtifact :=
  saved.mapIdx fun index new => new.toArtifact (index + 1)

theorem numbered_append_cons (earlier later : List NewCodeArtifact)
    (new : NewCodeArtifact) :
    ∃ rest, numbered (earlier ++ new :: later) =
      numbered earlier ++ new.toArtifact (earlier.length + 1) :: rest := by
  rw [numbered, List.mapIdx_append, List.mapIdx_cons, Nat.zero_add]
  exact ⟨_, rfl⟩

theorem numbered_concat (saved : List NewCodeArtifact) (new : NewCodeArtifact) :
    numbered (saved ++ [new]) =
      numbered saved ++ [new.toArtifact (saved.length + 1)] :=
  List.mapIdx_concat

theorem exists_of_mem_numbered {saved : List NewCodeArtifact}
    {artifact : CodeArtifact} (hartifact : artifact ∈ numbered saved) :
    ∃ new ∈ saved, ∃ id, artifact = new.toArtifact id := by
  obtain ⟨index, hindex, rfl⟩ := List.mem_mapIdx.mp hartifact
  exact ⟨_, List.getElem_mem hindex, _, rfl⟩

theorem exists_mem_numbered {saved : List NewCodeArtifact}
    {new : NewCodeArtifact} (hnew : new ∈ saved) :
    ∃ id, new.toArtifact id ∈ numbered saved := by
  obtain ⟨index, hindex, rfl⟩ := List.getElem_of_mem hnew
  exact ⟨_, List.mem_mapIdx.mpr ⟨index, hindex, rfl⟩⟩

/-- An artifact is never without a language. -/
theorem NewCodeArtifact.language_toArtifact_ne (new : NewCodeArtifact) (id : Nat) :
    (new.toArtifact id).language ≠ "" := by
  simp only [toArtifact, Text.nonEmpty]
  cases hlanguage : new.language.filter (· ≠ "") with
  | none => simp [defaultLanguage]
  | some language => simpa using (Option.filter_eq_some_iff.mp hlanguage).2

namespace Tables

variable {tables : Tables} {diagramId : Nat} {artifact : CodeArtifact}

theorem saved_concat (history : List Operation) (operation : Operation) :
    saved (history ++ [operation]) = saved history ++ operation.saves.toList := by
  cases hsaves : operation.saves <;> simp [saved, hsaves]

/-- A history leaves the code that it has stored, under the numbers in
order. -/
theorem artifacts_after (history : List Operation) :
    (after history).artifacts = numbered (saved history)
      ∧ (after history).nextArtifact = (saved history).length + 1 := by
  induction history using List.reverseRecOn with
  | nil => exact ⟨rfl, rfl⟩
  | append_singleton history operation ih =>
    rw [after_concat, saved_concat]
    cases operation with
    | createCode new =>
      simp [Operation.effect, Tables.createCode, Operation.saves, ih, numbered_concat]
    | createDiagram new | updateDiagram id patch | deleteDiagram id
    | getDiagram id | listDiagrams | codeForDiagram id =>
      simp only [Operation.saves, Option.toList_none, List.append_nil]
      exact ih

theorem codeFor?_eq_none_iff :
    tables.codeFor? diagramId = none ↔
      ∀ artifact ∈ tables.artifacts, artifact.diagramId ≠ some diagramId := by
  simp [codeFor?, List.find?_eq_none]

theorem diagramId_of_codeFor? (hcode : tables.codeFor? diagramId = some artifact) :
    artifact.diagramId = some diagramId := by
  simpa using List.find?_some hcode

theorem id_le_of_codeFor? (hordered : tables.Ordered)
    (hcode : tables.codeFor? diagramId = some artifact) {other : CodeArtifact}
    (hother : other ∈ tables.artifacts)
    (hdiagram : other.diagramId = some diagramId) : artifact.id ≤ other.id := by
  obtain ⟨-, before, after, hsplit, hbefore⟩ :=
    List.find?_eq_some_iff_append.mp hcode
  rw [hsplit] at hother
  rcases List.mem_append.mp hother with hearlier | hlater
  · exact absurd hdiagram (by simpa using hbefore other hearlier)
  · have hafter := (List.pairwise_append.mp (hsplit ▸ hordered.artifacts)).2.1
    rcases List.mem_cons.mp hlater with rfl | hlater
    · exact Nat.le_refl _
    · exact Nat.le_of_lt (List.rel_of_pairwise_cons hafter hlater)

theorem eq_of_artifact_id_eq (hordered : tables.Ordered)
    {first second : CodeArtifact} (hfirst : first ∈ tables.artifacts)
    (hsecond : second ∈ tables.artifacts) (hid : first.id = second.id) :
    first = second := by
  have hnodup : (tables.artifacts.map (·.id)).Nodup :=
    List.pairwise_map.mpr (hordered.artifacts.imp Nat.ne_of_lt)
  exact List.inj_on_of_nodup_map hnodup hfirst hsecond hid

/-- The code of a diagram is the artifact with the least number among those
that were stored for it, in whatever order they are kept. -/
theorem codeFor?_eq_some_iff (hordered : tables.Ordered) :
    tables.codeFor? diagramId = some artifact ↔
      artifact ∈ tables.artifacts ∧ artifact.diagramId = some diagramId
        ∧ ∀ other ∈ tables.artifacts, other.diagramId = some diagramId →
          artifact.id ≤ other.id := by
  constructor
  · intro hcode
    exact ⟨List.mem_of_find?_eq_some hcode, diagramId_of_codeFor? hcode,
      fun other => id_le_of_codeFor? hordered hcode⟩
  · rintro ⟨hmem, hdiagram, hleast⟩
    cases hcode : tables.codeFor? diagramId with
    | none => exact absurd hdiagram (codeFor?_eq_none_iff.mp hcode artifact hmem)
    | some first =>
      have hfirst := List.mem_of_find?_eq_some hcode
      have hid := Nat.le_antisymm (id_le_of_codeFor? hordered hcode hmem hdiagram)
        (hleast first hfirst (diagramId_of_codeFor? hcode))
      rw [eq_of_artifact_id_eq hordered hfirst hmem hid]

/-- The first code that a history stored for a diagram is still the code of the
diagram afterwards. -/
theorem codeFor?_after_of_first {history : List Operation}
    {earlier later : List NewCodeArtifact} {new : NewCodeArtifact}
    (hsaved : saved history = earlier ++ new :: later)
    (hnew : new.diagramId = some diagramId)
    (hearlier : ∀ old ∈ earlier, old.diagramId ≠ some diagramId) :
    (after history).codeFor? diagramId =
      some (new.toArtifact (earlier.length + 1)) := by
  obtain ⟨rest, hrest⟩ := numbered_append_cons earlier later new
  rw [codeFor?, (artifacts_after history).1, hsaved, hrest]
  refine List.find?_eq_some_iff_append.mpr ⟨decide_eq_true hnew, _, _, rfl, ?_⟩
  intro artifact hartifact
  obtain ⟨old, hold, id, rfl⟩ := exists_of_mem_numbered hartifact
  have hother : (old.toArtifact id).diagramId ≠ some diagramId :=
    hearlier old hold
  exact congrArg (!·) (decide_eq_false hother)

theorem codeFor?_after_eq_none_iff (history : List Operation) :
    (after history).codeFor? diagramId = none ↔
      ∀ new ∈ saved history, new.diagramId ≠ some diagramId := by
  rw [codeFor?_eq_none_iff, (artifacts_after history).1]
  constructor
  · intro hnone new hnew
    obtain ⟨id, hartifact⟩ := exists_mem_numbered hnew
    exact hnone _ hartifact
  · intro hnone artifact hartifact
    obtain ⟨new, hnew, id, rfl⟩ := exists_of_mem_numbered hartifact
    exact hnone new hnew

end Tables

theorem Store.codeForDiagram_mk (tables : Tables) (diagramId : Nat) :
    codeForDiagram ⟨tables, false⟩ diagramId = .ok (tables.codeFor? diagramId) := rfl

/-! ## Actions of operators and sessions -/

/-- The code that a message stores. -/
def ClientMessage.saves : ClientMessage → Option NewCodeArtifact
  | saveCode new => some new
  | _ => none

/-- The artifact that a message reports as stored. -/
def ServerMessage.artifact? : ServerMessage → Option CodeArtifact
  | codeSaved artifact => some artifact
  | _ => none

/-- What is done to a shared store: an operation, the handling of a raw message
by a session with a publisher, or the running of a message by a session. -/
inductive Action where
  | operate (operation : Operation)
  | handle (session : Session)
    (publish : ServerMessage → Except SessionError Unit) (raw : String)
  | respond (session : Session) (message : ClientMessage)

namespace Action

/-- The code that an action stores: that of a creation, and that of a message
which can be decoded and stores code. -/
def saves : Action → Option NewCodeArtifact
  | operate operation => operation.saves
  | handle _ _ raw => (ClientMessage.decode raw).toOption.bind ClientMessage.saves
  | respond _ message => message.saves

/-- The artifacts that an action reports as stored, in its answer or in the
messages that it publishes, and the world afterwards. -/
def perform (world : World) : Action → List CodeArtifact × World
  | operate operation =>
    (match operation with
      | .createCode new => (world.store.createCode new).1.toOption.toList
      | _ => [],
      { world with store := operation.perform world.store })
  | handle session publish raw =>
    let outcome := Id.run <|
      session.handling (fun message => pure (publish message)) raw world
    (outcome.2.filterMap ServerMessage.artifact?, outcome.1.2)
  | respond session message =>
    (((session.respond message world).1.toOption.bind ServerMessage.artifact?).toList,
      (session.respond message world).2)

/-- The operations on the store that an action comes to. -/
def operations : Action → List Operation
  | operate operation => [operation]
  | handle session publish raw =>
    (handle session publish raw).saves.toList.map .createCode
  | respond session message =>
    (respond session message).saves.toList.map .createCode

/-- The world after some actions that start from a store without contents. -/
def after (files : FileTree) (history : List Action) : World :=
  history.foldl (fun world action => (action.perform world).2) { files }

/-- The code that the actions of a history have stored. -/
def saved (history : List Action) : List NewCodeArtifact :=
  history.filterMap Action.saves

variable {world : World}

theorem artifact?_respond (session : Session) (message : ClientMessage) :
    (session.respond message world).1.toOption.bind ServerMessage.artifact? =
      message.saves.bind fun new => (world.store.createCode new).1.toOption := by
  cases message with
  | saveCode new =>
    cases hpoisoned : world.store.poisoned with
    | false =>
      rw [Session.respond_saveCode_of_open hpoisoned, ClientMessage.saves,
        Option.bind_some, Store.createCode_of_open hpoisoned]
      rfl
    | true =>
      rw [Session.respond_saveCode_of_poisoned hpoisoned, ClientMessage.saves,
        Option.bind_some, Store.createCode_of_poisoned hpoisoned]
      rfl
  | generateCode request | compileCode request | analyzeMockup request => rfl

theorem artifact?_failureReply {event : Option String} {fault : Json.Fault}
    {reply : ServerMessage}
    (hreply : Session.failureReply event fault = some reply) :
    reply.artifact? = none := by
  unfold Session.failureReply at hreply
  split at hreply
  all_goals first | contradiction | obtain rfl := Option.some.inj hreply; rfl

/-- The reply to a raw message reports what the message stores. -/
theorem artifacts_answer (session : Session) (raw : String) :
    ((session.answer raw world).1.toOption.bind ServerMessage.artifact?) =
      ((ClientMessage.decode raw).toOption.bind ClientMessage.saves).bind
        fun new => (world.store.createCode new).1.toOption := by
  cases hdecode : ClientMessage.decode raw with
  | ok message =>
    rw [Session.answer_of_decode hdecode]
    exact artifact?_respond session message
  | error fault =>
    cases hreply : Session.failureReply (Session.eventName raw) fault with
    | some reply =>
      rw [Session.answer_of_failureReply hdecode hreply]
      exact artifact?_failureReply hreply
    | none =>
      rw [Session.answer_of_no_failureReply hdecode hreply]
      rfl

theorem perform_handle (session : Session)
    (publish : ServerMessage → Except SessionError Unit) (raw : String) :
    (handle session publish raw).perform world =
      (((session.answer raw world).1.toOption.bind
          ServerMessage.artifact?).toList,
        (session.answer raw world).2) := by
  cases hanswer : session.answer raw world with
  | mk outcome after =>
    cases outcome with
    | ok reply =>
      rw [perform, Session.handling_of_ok hanswer]
      cases hartifact : reply.artifact? <;>
        simp [published, Except.toOption, hartifact]
    | error error =>
      rw [perform, Session.handling_of_error hanswer]
      rfl

/-- An action reports what it stores, as the store has it. -/
theorem artifacts_perform (action : Action) :
    (action.perform world).1 =
      (action.saves.bind fun new =>
        (world.store.createCode new).1.toOption).toList := by
  cases action with
  | operate operation => cases operation <;> rfl
  | handle session publish raw =>
    rw [perform_handle, artifacts_answer]
    rfl
  | respond session message =>
    rw [perform, artifact?_respond]
    rfl

theorem store_perform (action : Action) :
    (action.perform world).2.store =
      action.operations.foldl Operation.perform world.store := by
  cases action with
  | operate operation => rfl
  | handle session publish raw =>
    rw [perform_handle, Session.store_answer]
    simp only [operations, saves]
    cases ClientMessage.decode raw with
    | ok message => cases message <;> rfl
    | error fault => rfl
  | respond session message =>
    rw [perform, Session.store_respond]
    cases message <;> rfl

/-- Whatever is done to a store that began without contents, it is not poisoned. -/
theorem store_after (files : FileTree) (history : List Action) :
    (after files history).store = ⟨Tables.after (history.flatMap operations), false⟩ := by
  rw [← Store.after_eq]
  induction history using List.reverseRecOn with
  | nil => rfl
  | append_singleton history action ih =>
    rw [after, List.foldl_append, List.foldl_cons, List.foldl_nil, ← after,
      store_perform, ih, List.flatMap_append, Store.after, Store.after,
      ← List.foldl_append]
    simp

theorem saved_map_createCode (new : Option NewCodeArtifact) :
    Tables.saved (new.toList.map .createCode) = new.toList := by
  cases new <;> rfl

theorem saved_operations (action : Action) :
    Tables.saved action.operations = action.saves.toList := by
  cases action with
  | operate operation => cases operation <;> rfl
  | handle session publish raw => exact saved_map_createCode _
  | respond session message => exact saved_map_createCode _

theorem saved_flatMap (history : List Action) :
    Tables.saved (history.flatMap operations) = saved history := by
  induction history with
  | nil => rfl
  | cons action history ih =>
    rw [List.flatMap_cons, Tables.saved, List.filterMap_append, ← Tables.saved,
      ← Tables.saved, ih, saved_operations]
    cases hsaves : action.saves <;> simp [saved, hsaves]

/-- What the actions of a history have made of the code in a store. -/
structure KeepsCode (files : FileTree) (history : List Action) : Prop where
  /-- An action that stores code reports one artifact, which has the next
  number and what it was given, and some language. -/
  stores {action : Action} {new : NewCodeArtifact}
    (hsaves : action.saves = some new) : ∃ artifact : CodeArtifact,
      (action.perform (after files history)).1 = [artifact]
        ∧ artifact.id = (saved history).length + 1
        ∧ artifact.code = new.code ∧ artifact.componentName = new.componentName
        ∧ artifact.diagramId = new.diagramId ∧ artifact.language ≠ ""
  /-- Any other action reports none. -/
  storesNone {action : Action} (hsaves : action.saves = none) :
    (action.perform (after files history)).1 = []
  /-- A diagram has no code until some is stored for it. -/
  missing (diagramId : Nat) :
    (after files history).store.codeForDiagram diagramId = .ok none ↔
      ∀ new ∈ saved history, new.diagramId ≠ some diagramId
  /-- The first artifact that was stored for a diagram is its code, whatever
  the later actions are. -/
  first {diagramId : Nat} {earlier later : List Action} {action : Action}
    {new : NewCodeArtifact} (hsplit : history = earlier ++ action :: later)
    (hsaves : action.saves = some new) (hnew : new.diagramId = some diagramId)
    (hearlier : ∀ old ∈ saved earlier, old.diagramId ≠ some diagramId) :
    ∃ artifact, (action.perform (after files earlier)).1 = [artifact]
      ∧ (after files history).store.codeForDiagram diagramId = .ok (some artifact)
  /-- The code of a diagram was stored for that diagram. -/
  attached {diagramId : Nat} {artifact : CodeArtifact}
    (hcode : (after files history).store.codeForDiagram diagramId =
      .ok (some artifact)) :
    artifact.diagramId = some diagramId
  /-- The code of a diagram is the artifact with the least number among those
  for the diagram, in whatever order the artifacts are kept. -/
  least (diagramId : Nat) (artifact : CodeArtifact) :
    (after files history).store.codeForDiagram diagramId = .ok (some artifact) ↔
      artifact ∈ (after files history).store.tables.artifacts
        ∧ artifact.diagramId = some diagramId
        ∧ ∀ other ∈ (after files history).store.tables.artifacts,
          other.diagramId = some diagramId → artifact.id ≤ other.id

theorem perform_after_of_saves (files : FileTree) (history : List Action)
    {action : Action} {new : NewCodeArtifact} (hsaves : action.saves = some new) :
    (action.perform (after files history)).1 =
      [new.toArtifact ((saved history).length + 1)] := by
  rw [artifacts_perform, hsaves, store_after, ← saved_flatMap,
    ← (Tables.artifacts_after (history.flatMap operations)).2]
  rfl

/-- Saved code is numbered in order and keeps what it was given, and the first
code for a diagram stays the code of the diagram. -/
theorem first_code_kept (files : FileTree) (history : List Action) :
    KeepsCode files history where
  stores := fun {action new} hsaves =>
    ⟨_, perform_after_of_saves files history hsaves, rfl, rfl, rfl, rfl,
      new.language_toArtifact_ne _⟩
  storesNone := fun hsaves => by rw [artifacts_perform, hsaves]; rfl
  missing := fun diagramId => by
    rw [store_after, Store.codeForDiagram_mk, Except.ok.injEq,
      Tables.codeFor?_after_eq_none_iff, saved_flatMap]
  first := fun {diagramId earlier later action new} hsplit hsaves hnew hearlier => by
    refine ⟨_, perform_after_of_saves files earlier hsaves, ?_⟩
    have hsaved : Tables.saved (history.flatMap operations) =
        saved earlier ++ new :: saved later := by
      rw [saved_flatMap, hsplit]
      simp [saved, hsaves]
    rw [store_after, Store.codeForDiagram_mk, Except.ok.injEq]
    exact Tables.codeFor?_after_of_first hsaved hnew hearlier
  attached := fun hcode => by
    rw [store_after, Store.codeForDiagram_mk, Except.ok.injEq] at hcode
    exact Tables.diagramId_of_codeFor? hcode
  least := fun diagramId artifact => by
    rw [store_after, Store.codeForDiagram_mk, Except.ok.injEq]
    exact Tables.codeFor?_eq_some_iff (Tables.ordered_after _)

/-- The numbers of artifacts fit into 64 bits as long as less code is stored than 64
bits can number. -/
theorem artifact_numbers_fit {files : FileTree} {history : List Action}
    (hsaved : (saved history).length + 1 < 2 ^ 64) :
    (after files history).store.tables.nextArtifact < 2 ^ 64
      ∧ ∀ artifact ∈ (after files history).store.tables.artifacts,
        artifact.id < 2 ^ 64 := by
  have hnext : (Tables.after (history.flatMap operations)).nextArtifact < 2 ^ 64 := by
    rwa [(Tables.artifacts_after _).2, saved_flatMap]
  rw [store_after]
  exact ⟨hnext, fun artifact hartifact =>
    ((Tables.ordered_after _).artifactsBelow artifact hartifact).trans hnext⟩

end Action

end Wireform
