/-!
# Syntax trees

The trees that a parser returns, with the faults of the source in them, and
the search for the topmost faults.
-/

namespace Wireform.Syntax

/-- A place in a source text: completed lines, and bytes since the start of
the line. -/
structure Point where
  row : Nat := 0
  column : Nat := 0
deriving DecidableEq, Repr, Inhabited

structure NodeInfo where
  kind : String
  start : Point
  /-- Whether the node holds text that belongs nowhere. -/
  isError : Bool := false
  /-- Whether the parser put the node where the source lacks it. -/
  isMissing : Bool := false
  /-- Whether the node or a node below it is an error or missing. -/
  hasError : Bool := false
deriving DecidableEq, Repr

inductive Tree where
  | node (info : NodeInfo) (children : List Tree)

namespace Tree

def info : Tree → NodeInfo
  | node info _ => info

def children : Tree → List Tree
  | node _ children => children

mutual

def size : Tree → Nat
  | node _ children => sizes children + 1

def sizes : List Tree → Nat
  | [] => 0
  | first :: rest => first.size + sizes rest

end

theorem size_eq (tree : Tree) : tree.size = sizes tree.children + 1 := by
  cases tree with
  | node info children => rw [size, Tree.children]

theorem sizes_append (left right : List Tree) :
    sizes (left ++ right) = sizes left + sizes right := by
  induction left with
  | nil => rw [List.nil_append, sizes, Nat.zero_add]
  | cons tree left ih => rw [List.cons_append, sizes, sizes, ih, Nat.add_assoc]

/-- Whether the root is itself a fault. -/
def isFault (tree : Tree) : Bool :=
  tree.info.isError || tree.info.isMissing

def leaf (kind : String) (start : Point) : Tree :=
  node { kind, start } []

/-- A tree for text that belongs nowhere. -/
def error (start : Point) : Tree :=
  node { kind := "ERROR", start, isError := true, hasError := true } []

/-- A tree for a token that the source lacks. -/
def missing (token : String) (start : Point) : Tree :=
  node { kind := token, start, isMissing := true, hasError := true } []

def branch (kind : String) (start : Point) (children : List Tree) : Tree :=
  node { kind, start, hasError := children.any (·.info.hasError) } children

end Tree

structure Diagnostic where
  /-- Lines count from one. -/
  line : Nat
  /-- Bytes within the line count from one. -/
  column : Nat
  /-- The token that the source lacks, if that is the fault. -/
  missing : Option String
deriving DecidableEq, Repr

/-- The diagnostic for a faulty node. -/
def Diagnostic.ofInfo (info : NodeInfo) : Diagnostic where
  line := info.start.row + 1
  column := info.start.column + 1
  missing := if info.isMissing then some info.kind else none

/-- A search for faults: the trees that are still to be visited, the next one
first, and the faults that have been found. -/
structure Search where
  stack : List Tree
  found : Array Diagnostic := #[]

namespace Search

/-- Put trees on a stack, one after the other. -/
def push (stack trees : List Tree) : List Tree :=
  trees.foldl (fun stack tree => tree :: stack) stack

/-- Visit a tree.  A fault is recorded, and what is below it is not looked at.
A tree with faults below it makes way for its children: the last one is put on
the stack first, so that the first one is visited next. -/
def visit (search : Search) (tree : Tree) : Search :=
  if tree.isFault then
    { search with found := search.found.push (Diagnostic.ofInfo tree.info) }
  else if tree.info.hasError then
    { search with stack := push search.stack tree.children.reverse }
  else search

def step (search : Search) : Option Search :=
  match search.stack with
  | [] => none
  | tree :: stack => some (visit { search with stack } tree)

theorem push_reverse (stack trees : List Tree) :
    push stack trees.reverse = trees ++ stack := by
  rw [push, List.foldl_reverse]
  induction trees with
  | nil => rfl
  | cons tree trees ih => rw [List.foldr_cons, ih, List.cons_append]

/-- A visit takes at least the visited node off the stack. -/
theorem sizes_visit_le (search : Search) (tree : Tree) :
    Tree.sizes (search.visit tree).stack + 1 ≤
      Tree.sizes search.stack + tree.size := by
  have hsize := tree.size_eq
  unfold visit
  split
  · simp only
    omega
  · split
    · simp only [push_reverse, Tree.sizes_append]
      omega
    · omega

theorem sizes_step_lt {search next : Search} (hstep : search.step = some next) :
    Tree.sizes next.stack < Tree.sizes search.stack := by
  obtain ⟨stack, found⟩ := search
  cases stack with
  | nil => cases hstep
  | cons tree stack =>
    obtain rfl := Option.some.inj hstep
    have hvisit := sizes_visit_le { stack, found } tree
    simp only [Tree.sizes] at hvisit ⊢
    omega

/-- Search until no tree is left. -/
def run (search : Search) : Array Diagnostic :=
  match _ : search.step with
  | none => search.found
  | some next => run next
termination_by Tree.sizes search.stack
decreasing_by exact sizes_step_lt ‹_›

end Search

/-- The topmost faults of a tree, in document order. -/
def Tree.diagnostics (tree : Tree) : List Diagnostic :=
  if tree.info.hasError then (Search.run { stack := [tree] }).toList else []

end Wireform.Syntax
