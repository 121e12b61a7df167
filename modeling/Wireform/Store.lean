import Wireform.Artifact

/-!
# The store

Diagrams and code artifacts under numbers that are given out in order, from
one on, and never twice.  Both are kept in the order in which they were
created, which is the order of their numbers.  A store is shared by all who use
it, so that its tables stand behind a lock.
-/

namespace Wireform

open Json

/-- A diagram in the store. -/
structure StoredDiagram where
  id : Nat
  name : String
  diagram : Diagram
  settings : Settings
deriving DecidableEq, Repr

/-- A diagram to be stored. -/
structure NewDiagram where
  name : String
  diagram : Diagram
  settings : Settings
deriving DecidableEq, Repr

/-- A partial change: what is missing stays as it is. -/
structure DiagramPatch where
  name : Option String := none
  diagram : Option Diagram := none
  settings : Option Settings := none
deriving DecidableEq, Repr

/-- Code to be stored.  An empty or missing language is TypeScript. -/
structure NewCodeArtifact where
  diagramId : Option Nat
  code : String
  componentName : String
  language : Option String := none
  sourceKind : Option SourceKind := none
deriving DecidableEq, Repr

/-! ## Documents -/

namespace StoredDiagram

def toJson (stored : StoredDiagram) : Json :=
  .object
    [("id", .natural stored.id), ("name", .string stored.name),
     ("diagram", stored.diagram.toJson), ("settings", stored.settings.toJson)]

def decoder : Decoder StoredDiagram :=
  .record "StoredDiagram"
    (.cons (.required "id" .unsigned) <|
     .cons (.required "name" .string) <|
     .cons (.required "diagram" Diagram.decoder) <|
     .cons (.required "settings" Settings.decoder) .nil)
    fun (id, name, diagram, settings, _) => { id, name, diagram, settings }

end StoredDiagram

namespace NewDiagram

def toJson (new : NewDiagram) : Json :=
  .object
    [("name", .string new.name), ("diagram", new.diagram.toJson),
     ("settings", new.settings.toJson)]

def decoder : Decoder NewDiagram :=
  .record "NewDiagram"
    (.cons (.required "name" .string) <|
     .cons (.required "diagram" Diagram.decoder) <|
     .cons (.required "settings" Settings.decoder) .nil)
    fun (name, diagram, settings, _) => { name, diagram, settings }

end NewDiagram

namespace DiagramPatch

def toJson (patch : DiagramPatch) : Json :=
  .object
    [("name", Json.optional Json.string patch.name),
     ("diagram", Json.optional Diagram.toJson patch.diagram),
     ("settings", Json.optional Settings.toJson patch.settings)]

def decoder : Decoder DiagramPatch :=
  .record "DiagramPatch"
    (.cons (.nullable "name" .string) <|
     .cons (.nullable "diagram" Diagram.decoder) <|
     .cons (.nullable "settings" Settings.decoder) .nil)
    fun (name, diagram, settings, _) => { name, diagram, settings }

/-- The stored diagram after a change. -/
def apply (patch : DiagramPatch) (stored : StoredDiagram) : StoredDiagram where
  id := stored.id
  name := patch.name.getD stored.name
  diagram := patch.diagram.getD stored.diagram
  settings := patch.settings.getD stored.settings

end DiagramPatch

namespace NewCodeArtifact

def toJson (new : NewCodeArtifact) : Json :=
  .object
    [("diagramId", Json.optional Json.natural new.diagramId),
     ("code", .string new.code), ("componentName", .string new.componentName),
     ("language", Json.optional Json.string new.language),
     ("sourceKind", Json.optional SourceKind.toJson new.sourceKind)]

def decoder : Decoder NewCodeArtifact :=
  .record "NewCodeArtifact"
    (.cons (.nullable "diagramId" .unsigned) <|
     .cons (.required "code" .string) <|
     .cons (.required "componentName" .string) <|
     .cons (.optional "language" .string) <|
     .cons (.optional "sourceKind" SourceKind.decoder) .nil)
    fun (diagramId, code, componentName, language, sourceKind, _) =>
      { diagramId, code, componentName, language, sourceKind }

/-- The language of code for which none is given. -/
def defaultLanguage : String := "typescript"

/-- The artifact under a number. -/
def toArtifact (new : NewCodeArtifact) (id : Nat) : CodeArtifact where
  id := id
  diagramId := new.diagramId
  code := new.code
  language := (Text.nonEmpty new.language).getD defaultLanguage
  componentName := new.componentName
  sourceKind := new.sourceKind.getD .diagram

end NewCodeArtifact

/-! ## Tables -/

/-- What a store holds, and the next numbers to be given out. -/
structure Tables where
  diagrams : List StoredDiagram := []
  artifacts : List CodeArtifact := []
  nextDiagram : Nat := 1
  nextArtifact : Nat := 1
deriving DecidableEq, Repr

namespace Tables

def createDiagram (tables : Tables) (new : NewDiagram) : StoredDiagram × Tables :=
  let stored : StoredDiagram :=
    { id := tables.nextDiagram, name := new.name, diagram := new.diagram,
      settings := new.settings }
  (stored,
    { tables with
      diagrams := tables.diagrams ++ [stored]
      nextDiagram := tables.nextDiagram + 1 })

/-- The diagram under a number. -/
def diagram? (tables : Tables) (id : Nat) : Option StoredDiagram :=
  tables.diagrams.find? (·.id = id)

/-- All diagrams, by ascending number. -/
def listDiagrams (tables : Tables) : List StoredDiagram :=
  tables.diagrams

/-- Change a diagram, if there is one under the number. -/
def updateDiagram (tables : Tables) (id : Nat) (patch : DiagramPatch) :
    Option StoredDiagram × Tables :=
  let change (stored : StoredDiagram) : StoredDiagram :=
    if stored.id = id then patch.apply stored else stored
  ((tables.diagram? id).map patch.apply,
    { tables with diagrams := tables.diagrams.map change })

/-- Remove a diagram; whether there was one under the number. -/
def deleteDiagram (tables : Tables) (id : Nat) : Bool × Tables :=
  ((tables.diagram? id).isSome,
    { tables with diagrams := tables.diagrams.filter (·.id ≠ id) })

def createCode (tables : Tables) (new : NewCodeArtifact) : CodeArtifact × Tables :=
  let artifact := new.toArtifact tables.nextArtifact
  (artifact,
    { tables with
      artifacts := tables.artifacts ++ [artifact]
      nextArtifact := tables.nextArtifact + 1 })

/-- The first code that was stored for a diagram. -/
def codeFor? (tables : Tables) (diagramId : Nat) : Option CodeArtifact :=
  tables.artifacts.find? (·.diagramId = some diagramId)

end Tables

/-! ## The lock -/

/-- The reason why a store cannot be used. -/
inductive StoreError where
  | poisoned
deriving DecidableEq, Repr

def StoreError.message : StoreError → String
  | poisoned => "The store lock was poisoned by a panicking writer"

/-- Tables behind a lock.  A writer that panics while it holds the lock leaves it
poisoned, and from then on nothing is read or written. -/
structure Store where
  tables : Tables := {}
  poisoned : Bool := false
deriving DecidableEq, Repr

namespace Store

variable {α : Type}

/-- A store without contents. -/
def empty : Store := {}

def read (store : Store) (ask : Tables → α) : Except StoreError α :=
  if store.poisoned then .error .poisoned else .ok (ask store.tables)

def write (store : Store) (change : Tables → α × Tables) :
    Except StoreError α × Store :=
  if store.poisoned then (.error .poisoned, store)
  else
    let (result, tables) := change store.tables
    (.ok result, { store with tables })

def createDiagram (store : Store) (new : NewDiagram) :
    Except StoreError StoredDiagram × Store :=
  store.write (·.createDiagram new)

def getDiagram (store : Store) (id : Nat) : Except StoreError (Option StoredDiagram) :=
  store.read (·.diagram? id)

def listDiagrams (store : Store) : Except StoreError (List StoredDiagram) :=
  store.read (·.listDiagrams)

def updateDiagram (store : Store) (id : Nat) (patch : DiagramPatch) :
    Except StoreError (Option StoredDiagram) × Store :=
  store.write (·.updateDiagram id patch)

def deleteDiagram (store : Store) (id : Nat) : Except StoreError Bool × Store :=
  store.write (·.deleteDiagram id)

def createCode (store : Store) (new : NewCodeArtifact) :
    Except StoreError CodeArtifact × Store :=
  store.write (·.createCode new)

def codeForDiagram (store : Store) (diagramId : Nat) :
    Except StoreError (Option CodeArtifact) :=
  store.read (·.codeFor? diagramId)

variable {store : Store}

theorem read_of_open (hopen : store.poisoned = false) (ask : Tables → α) :
    store.read ask = .ok (ask store.tables) := by
  simp [read, hopen]

/-- A write to a poisoned store fails and leaves it as it is. -/
theorem write_of_poisoned (hpoisoned : store.poisoned = true)
    (change : Tables → α × Tables) :
    store.write change = (.error .poisoned, store) :=
  if_pos hpoisoned

theorem write_of_open (hopen : store.poisoned = false)
    (change : Tables → α × Tables) :
    store.write change =
      (.ok (change store.tables).1, { store with tables := (change store.tables).2 }) := by
  simp [write, hopen]

/-- No operation poisons a store. -/
@[simp]
theorem poisoned_write (store : Store) (change : Tables → α × Tables) :
    (store.write change).2.poisoned = store.poisoned := by
  unfold write
  split <;> rfl

end Store

end Wireform
