import Mathlib
import Wireform.Syntax.Parser

/-!
# The search for faults

Faults are searched for with a stack, and trees without a fault in them are passed
over.  What the search finds is said here by places in the tree: the faults that have
no fault above them, in the order of their places.  Each turn of the search keeps the
faults that were found together with those that are still to be found, so nothing is
lost or found twice on the way.
-/

namespace Wireform.Syntax

namespace Tree

/-! ## Places -/

/-- The tree at a place.  A place is given by the child to go to at each node on the
way down, so the lexicographic order of places is the document order. -/
def at? : Tree → List Nat → Option Tree
  | tree, [] => some tree
  | tree, index :: place => tree.children[index]?.bind (·.at? place)

/-- There is a fault at a place. -/
def FaultAt (tree : Tree) (place : List Nat) : Prop :=
  ∃ fault, tree.at? place = some fault ∧ fault.isFault = true

/-- There is a fault at a place and none above it. -/
def TopmostAt (tree : Tree) (place : List Nat) : Prop :=
  tree.FaultAt place ∧
    ∀ above, above <+: place → above ≠ place → ¬ tree.FaultAt above

/-- Every node of a tree records whether there is a fault at it or below it. -/
def Flagged (tree : Tree) : Prop :=
  ∀ place inner, tree.at? place = some inner →
    (inner.info.hasError = true ↔ ∃ below, inner.FaultAt below)

/-- A diagnostic describes the node at a place, with its token if it is missing. -/
def DescribedBy (tree : Tree) (place : List Nat) (diagnostic : Diagnostic) : Prop :=
  ∃ fault, tree.at? place = some fault ∧
    diagnostic.line = fault.info.start.row + 1 ∧
    diagnostic.column = fault.info.start.column + 1 ∧
    ∀ token, diagnostic.missing = some token ↔
      fault.info.isMissing = true ∧ fault.info.kind = token

variable {tree child : Tree} {index : Nat} {place : List Nat}

theorem at?_cons (hchild : tree.children[index]? = some child) :
    tree.at? (index :: place) = child.at? place := by
  rw [at?, hchild, Option.bind_some]

theorem faultAt_nil : tree.FaultAt [] ↔ tree.isFault = true := by
  simp [FaultAt, at?]

theorem faultAt_cons :
    tree.FaultAt (index :: place) ↔
      ∃ child, tree.children[index]? = some child ∧ child.FaultAt place := by
  cases hchild : tree.children[index]? with
  | none => simp [FaultAt, at?, hchild]
  | some child => simp [FaultAt, at?_cons hchild]

theorem topmostAt_nil : tree.TopmostAt [] ↔ tree.isFault = true := by
  rw [TopmostAt, faultAt_nil, and_iff_left]
  intro above habove hne
  exact absurd (List.prefix_nil.1 habove) hne

/-- Below the root a fault is topmost if it is so in its child and the root is none. -/
theorem topmostAt_cons :
    tree.TopmostAt (index :: place) ↔
      tree.isFault = false ∧
        ∃ child, tree.children[index]? = some child ∧ child.TopmostAt place := by
  constructor
  · rintro ⟨hfault, habove⟩
    obtain ⟨child, hchild, hbelow⟩ := faultAt_cons.1 hfault
    have hroot : ¬ tree.FaultAt [] :=
      habove [] List.nil_prefix (List.cons_ne_nil _ _).symm
    rw [faultAt_nil, Bool.not_eq_true] at hroot
    refine ⟨hroot, child, hchild, hbelow, ?_⟩
    intro above hprefix hne hinner
    refine habove (index :: above) ?_ ?_ (faultAt_cons.2 ⟨child, hchild, hinner⟩)
    · exact List.cons_prefix_cons.2 ⟨rfl, hprefix⟩
    · intro heq
      exact hne (List.cons.inj heq).2
  · rintro ⟨hroot, child, hchild, hbelow, habove⟩
    refine ⟨faultAt_cons.2 ⟨child, hchild, hbelow⟩, ?_⟩
    intro above hprefix hne hinner
    cases above with
    | nil => simp [faultAt_nil, hroot] at hinner
    | cons first above =>
      obtain ⟨rfl, hshorter⟩ := List.cons_prefix_cons.1 hprefix
      obtain ⟨other, hother, hinner⟩ := faultAt_cons.1 hinner
      obtain rfl : child = other := Option.some.inj (hchild.symm.trans hother)
      refine habove above hshorter ?_ hinner
      rintro rfl
      exact hne rfl

/-! ## Topmost faults -/

mutual

/-- The topmost faults of a tree with their places, one child after the other. -/
def topmost : Tree → List (List Nat × NodeInfo)
  | node info children =>
    if info.isError || info.isMissing then [([], info)] else topmostFrom 0 children

/-- The topmost faults of neighbouring trees, the first of which has an index. -/
def topmostFrom (index : Nat) : List Tree → List (List Nat × NodeInfo)
  | [] => []
  | tree :: rest =>
    tree.topmost.map (fun fault => (index :: fault.1, fault.2))
      ++ topmostFrom (index + 1) rest

end

theorem topmost_of_isFault (hfault : tree.isFault = true) :
    tree.topmost = [([], tree.info)] := by
  cases tree with
  | node info children =>
    have hsome : (info.isError || info.isMissing) = true := hfault
    rw [topmost, hsome]
    rfl

theorem topmost_of_not_isFault (hfault : tree.isFault = false) :
    tree.topmost = topmostFrom 0 tree.children := by
  cases tree with
  | node info children =>
    have hnone : (info.isError || info.isMissing) = false := hfault
    rw [topmost, hnone]
    rfl

theorem map_snd_topmostFrom (index : Nat) (trees : List Tree) :
    (topmostFrom index trees).map Prod.snd =
      trees.flatMap fun tree => tree.topmost.map Prod.snd := by
  induction trees generalizing index with
  | nil => rfl
  | cons tree rest ih =>
    rw [topmostFrom, List.map_append, ih, List.map_map, List.flatMap_cons]
    rfl

theorem mem_topmostFrom {trees : List Tree} {info : NodeInfo} :
    (place, info) ∈ topmostFrom index trees ↔
      ∃ offset below child, place = (index + offset) :: below ∧
        trees[offset]? = some child ∧ (below, info) ∈ child.topmost := by
  induction trees generalizing index with
  | nil => simp [topmostFrom]
  | cons tree rest ih =>
    rw [topmostFrom, List.mem_append, ih, List.mem_map]
    constructor
    · rintro (⟨⟨below, _⟩, hmem, heq⟩ | ⟨offset, below, child, rfl, hchild, hmem⟩)
      · obtain ⟨rfl, rfl⟩ := Prod.mk.inj heq
        exact ⟨0, below, tree, rfl, rfl, hmem⟩
      · refine ⟨offset + 1, below, child, ?_, hchild, hmem⟩
        rw [Nat.add_right_comm, Nat.add_assoc]
    · rintro ⟨_ | offset, below, child, rfl, hchild, hmem⟩
      · obtain rfl : tree = child := by simpa using hchild
        exact .inl ⟨_, hmem, rfl⟩
      · refine .inr ⟨offset, below, child, ?_, hchild, hmem⟩
        rw [Nat.add_right_comm, Nat.add_assoc]

/-- The list of topmost faults holds just the topmost faults. -/
theorem mem_topmost {info : NodeInfo} :
    (place, info) ∈ tree.topmost ↔
      tree.TopmostAt place ∧ ∃ fault, tree.at? place = some fault ∧ fault.info = info := by
  induction place generalizing tree with
  | nil =>
    rw [topmostAt_nil]
    cases hfault : tree.isFault with
    | true => simp [topmost_of_isFault hfault, at?, eq_comm]
    | false => simp [topmost_of_not_isFault hfault, mem_topmostFrom]
  | cons index place ih =>
    rw [topmostAt_cons]
    cases hfault : tree.isFault with
    | true => simp [topmost_of_isFault hfault]
    | false =>
      rw [topmost_of_not_isFault hfault, mem_topmostFrom]
      constructor
      · rintro ⟨offset, below, child, hplace, hchild, hmem⟩
        obtain ⟨rfl, rfl⟩ : index = offset ∧ place = below := by simpa using hplace
        obtain ⟨htopmost, hinfo⟩ := ih.1 hmem
        rw [at?_cons hchild]
        exact ⟨⟨rfl, child, hchild, htopmost⟩, hinfo⟩
      · rintro ⟨⟨-, child, hchild, htopmost⟩, hinfo⟩
        rw [at?_cons hchild] at hinfo
        exact ⟨index, place, child, by simp, hchild, ih.2 ⟨htopmost, hinfo⟩⟩

mutual

/-- Topmost faults are listed in document order. -/
theorem pairwise_topmost : ∀ tree : Tree,
    tree.topmost.Pairwise fun first second => first.1 < second.1
  | node info children => by
    rw [topmost]
    split
    · exact List.pairwise_singleton _ _
    · exact pairwise_topmostFrom 0 children

theorem pairwise_topmostFrom : ∀ (index : Nat) (trees : List Tree),
    (topmostFrom index trees).Pairwise fun first second => first.1 < second.1
  | _, [] => .nil
  | index, tree :: rest => by
    rw [topmostFrom, List.pairwise_append, List.pairwise_map]
    refine ⟨?_, pairwise_topmostFrom (index + 1) rest, ?_⟩
    · refine (pairwise_topmost tree).imp ?_
      intro first second hlt
      exact List.cons_lt_cons_self.2 hlt
    · intro first hfirst second hsecond
      obtain ⟨fault, -, rfl⟩ := List.mem_map.1 hfirst
      obtain ⟨offset, below, child, hplace, -, -⟩ := mem_topmostFrom.1 hsecond
      rw [hplace]
      exact List.Lex.rel (by omega)

end

/-- A tree with a fault in it has a topmost one. -/
theorem exists_topmostAt (hfault : tree.FaultAt place) :
    ∃ above, tree.TopmostAt above := by
  induction place generalizing tree with
  | nil => exact ⟨[], topmostAt_nil.2 (faultAt_nil.1 hfault)⟩
  | cons index place ih =>
    cases hroot : tree.isFault with
    | true => exact ⟨[], topmostAt_nil.2 hroot⟩
    | false =>
      obtain ⟨child, hchild, hbelow⟩ := faultAt_cons.1 hfault
      obtain ⟨above, habove⟩ := ih hbelow
      exact ⟨index :: above, topmostAt_cons.2 ⟨hroot, child, hchild, habove⟩⟩

theorem topmost_eq_nil_iff : tree.topmost = [] ↔ ∀ place, ¬ tree.FaultAt place := by
  rw [List.eq_nil_iff_forall_not_mem]
  constructor
  · intro hnone place hfault
    obtain ⟨above, habove⟩ := exists_topmostAt hfault
    obtain ⟨fault, hat, -⟩ := habove.1
    exact hnone (above, fault.info) (mem_topmost.2 ⟨habove, fault, hat, rfl⟩)
  · rintro hnone ⟨place, info⟩ hmem
    exact hnone place (mem_topmost.1 hmem).1.1

/-! ## Flags -/

theorem Flagged.of_mem_children (hflags : tree.Flagged) (hchild : child ∈ tree.children) :
    child.Flagged := by
  obtain ⟨index, hindex⟩ := List.mem_iff_getElem?.1 hchild
  intro place inner hinner
  exact hflags (index :: place) inner ((at?_cons hindex).trans hinner)

theorem Flagged.topmost_eq_nil (hflags : tree.Flagged) (herror : tree.info.hasError = false) :
    tree.topmost = [] := by
  rw [topmost_eq_nil_iff, ← not_exists, ← hflags [] tree rfl, herror]
  exact Bool.false_ne_true

theorem flagged_node {info : NodeInfo} {children : List Tree}
    (hchildren : ∀ child ∈ children, child.Flagged)
    (hinfo : info.hasError = true ↔
      (info.isError || info.isMissing) = true ∨ ∃ child ∈ children, child.info.hasError = true) :
    (node info children).Flagged := by
  have hbelow {child : Tree} (hchild : child ∈ children) :
      child.info.hasError = true ↔ ∃ below, child.FaultAt below :=
    hchildren child hchild [] child rfl
  intro place inner hinner
  cases place with
  | nil =>
    obtain rfl : node info children = inner := Option.some.inj hinner
    refine hinfo.trans ?_
    constructor
    · rintro (hfault | ⟨child, hchild, herror⟩)
      · exact ⟨[], faultAt_nil.2 hfault⟩
      · obtain ⟨index, hindex⟩ := List.mem_iff_getElem?.1 hchild
        obtain ⟨below, hfault⟩ := (hbelow hchild).1 herror
        exact ⟨index :: below, faultAt_cons.2 ⟨child, hindex, hfault⟩⟩
    · rintro ⟨_ | ⟨index, below⟩, hfault⟩
      · exact .inl (faultAt_nil.1 hfault)
      · obtain ⟨child, hindex, hfault⟩ := faultAt_cons.1 hfault
        have hchild : child ∈ children := List.mem_of_getElem? hindex
        exact .inr ⟨child, hchild, (hbelow hchild).2 ⟨below, hfault⟩⟩
  | cons index place =>
    obtain ⟨child, hindex, hinner⟩ := Option.bind_eq_some_iff.1 hinner
    exact hchildren child (List.mem_of_getElem? hindex) place inner hinner

theorem flagged_error (start : Point) : (error start).Flagged :=
  flagged_node (by simp) (by simp)

theorem flagged_missing (token : String) (start : Point) : (missing token start).Flagged :=
  flagged_node (by simp) (by simp)

theorem flagged_leaf (kind : String) (start : Point) : (leaf kind start).Flagged :=
  flagged_node (by simp) (by simp)

theorem flagged_branch (kind : String) (start : Point) {children : List Tree}
    (hchildren : ∀ child ∈ children, child.Flagged) :
    (branch kind start children).Flagged :=
  flagged_node hchildren (by simp)

end Tree

/-- The tree of every source text records its faults. -/
theorem flagged_parse (source : String) : (parse source).Flagged := by
  refine Tree.flagged_branch _ _ ?_
  intro child hchild
  obtain ⟨change, -, rfl⟩ := List.mem_map.1 hchild
  unfold Change.tree
  cases change.added with
  | none => exact Tree.flagged_error _
  | some token => exact Tree.flagged_missing token _

/-! ## Turns of the search -/

namespace Search

/-- The search after a number of turns, if it has not come to its end before. -/
def after : Nat → Search → Option Search
  | 0, search => some search
  | turns + 1, search => search.step.bind (after turns)

/-- The faults that have been found and those that are to be found. -/
def report (search : Search) : List Diagnostic :=
  search.found.toList
    ++ (search.stack.flatMap fun tree => tree.topmost.map Prod.snd).map Diagnostic.ofInfo

variable {search next : Search}

theorem exists_of_step_eq_some (hstep : search.step = some next) :
    ∃ tree stack, search.stack = tree :: stack ∧
      next = visit { search with stack } tree := by
  unfold step at hstep
  split at hstep
  · cases hstep
  · next tree stack hstack => exact ⟨tree, stack, hstack, (Option.some.inj hstep).symm⟩

theorem stack_eq_nil_of_step_eq_none (hstep : search.step = none) : search.stack = [] := by
  unfold step at hstep
  split at hstep
  · assumption
  · cases hstep

theorem run_of_step_eq_none (hstep : search.step = none) : search.run = search.found := by
  rw [run.eq_def]
  split
  · rfl
  · next hnext => cases hstep.symm.trans hnext

theorem run_of_step_eq_some (hstep : search.step = some next) : search.run = next.run := by
  rw [run.eq_def]
  split
  · next hnone => cases hstep.symm.trans hnone
  · next later hlater => rw [Option.some.inj (hstep.symm.trans hlater)]

/-- A visit moves the faults of a tree from those to be found to those found. -/
theorem report_visit {tree : Tree} (hflags : tree.Flagged) :
    (search.visit tree).report =
      report { search with stack := tree :: search.stack } := by
  unfold visit
  by_cases hfault : tree.isFault = true
  · simp [hfault, report, Tree.topmost_of_isFault]
  · rw [Bool.not_eq_true] at hfault
    by_cases herror : tree.info.hasError = true
    · simp [hfault, herror, report, push_reverse, Tree.topmost_of_not_isFault,
        Tree.map_snd_topmostFrom]
    · rw [Bool.not_eq_true] at herror
      simp [hfault, herror, report, hflags.topmost_eq_nil herror]

theorem flagged_visit {tree : Tree} (hflags : tree.Flagged)
    (hstack : ∀ waiting ∈ search.stack, waiting.Flagged) :
    ∀ waiting ∈ (search.visit tree).stack, waiting.Flagged := by
  unfold visit
  split
  · exact hstack
  · split
    · intro waiting hwaiting
      rw [push_reverse, List.mem_append] at hwaiting
      rcases hwaiting with hchild | hwaiting
      · exact hflags.of_mem_children hchild
      · exact hstack waiting hwaiting
    · exact hstack

/-- A turn changes nothing about the faults that are found in the end. -/
theorem report_of_step (hflags : ∀ tree ∈ search.stack, tree.Flagged)
    (hstep : search.step = some next) :
    next.report = search.report ∧ ∀ tree ∈ next.stack, tree.Flagged := by
  obtain ⟨tree, stack, hstack, rfl⟩ := exists_of_step_eq_some hstep
  rw [hstack] at hflags
  have htree : tree.Flagged := hflags tree List.mem_cons_self
  have hrest : ∀ waiting ∈ stack, waiting.Flagged := fun waiting hwaiting =>
    hflags waiting (List.mem_cons_of_mem tree hwaiting)
  constructor
  · rw [report_visit htree, report, report, hstack]
  · exact flagged_visit htree hrest

/-- A search that is run to its end finds all that was to be found. -/
theorem toList_run (hflags : ∀ tree ∈ search.stack, tree.Flagged) :
    search.run.toList = search.report := by
  induction search using run.induct with
  | case1 search hstep =>
    rw [run_of_step_eq_none hstep, report, stack_eq_nil_of_step_eq_none hstep]
    simp
  | case2 search next hstep ih =>
    obtain ⟨hreport, hnext⟩ := report_of_step hflags hstep
    rw [run_of_step_eq_some hstep, ih hnext, hreport]

/-- A search comes to its end after at most as many turns as there are nodes. -/
theorem exists_after (search : Search) :
    ∃ turns ≤ Tree.sizes search.stack, ∃ last,
      search.after turns = some last ∧ last.stack = [] ∧ last.found = search.run := by
  induction search using run.induct with
  | case1 search hstep =>
    exact ⟨0, Nat.zero_le _, search, rfl, stack_eq_nil_of_step_eq_none hstep,
      (run_of_step_eq_none hstep).symm⟩
  | case2 search next hstep ih =>
    obtain ⟨turns, hturns, last, hafter, hstack, hfound⟩ := ih
    have hlt := sizes_step_lt hstep
    refine ⟨turns + 1, by omega, last, ?_, hstack, ?_⟩
    · rw [after, hstep, Option.bind_some, hafter]
    · rw [hfound, run_of_step_eq_some hstep]

end Search

/-! ## What is found -/

variable {tree : Tree}

theorem diagnostics_eq (hflags : tree.Flagged) :
    tree.diagnostics = tree.topmost.map fun fault => Diagnostic.ofInfo fault.2 := by
  have hstack : ∀ waiting ∈ [tree], waiting.Flagged := by simpa using hflags
  unfold Tree.diagnostics
  split
  · rw [Search.toList_run hstack, Search.report]
    simp
  · next herror =>
    rw [hflags.topmost_eq_nil (by simpa using herror), List.map_nil]

theorem describedBy_ofInfo {place : List Nat} {fault : Tree}
    (hfault : tree.at? place = some fault) :
    tree.DescribedBy place (Diagnostic.ofInfo fault.info) := by
  refine ⟨fault, hfault, rfl, rfl, ?_⟩
  intro token
  unfold Diagnostic.ofInfo
  cases fault.info.isMissing <;> simp

/-- The search with a stack ends, and it finds the faults of a tree that have no
fault above them, each once and in document order.  Nothing is found if and only if
the tree has no fault, and a fault comes with a token exactly if it is a missing
node. -/
theorem topmost_faults_found (hflags : tree.Flagged) :
    (∃ turns ≤ tree.size, ∃ last, Search.after turns { stack := [tree] } = some last ∧
      last.stack = [] ∧ last.found.toList = tree.diagnostics) ∧
    (∃ places : List (List Nat), places.Pairwise (· < ·) ∧
      (∀ place, place ∈ places ↔ tree.TopmostAt place) ∧
      List.Forall₂ tree.DescribedBy places tree.diagnostics) ∧
    (tree.diagnostics = [] ↔ ∀ place, ¬ tree.FaultAt place) := by
  refine ⟨?_, ⟨tree.topmost.map Prod.fst, ?_, ?_, ?_⟩, ?_⟩
  · obtain ⟨turns, hturns, last, hafter, hstack, hfound⟩ :=
      Search.exists_after { stack := [tree] }
    have hsizes : Tree.sizes [tree] = tree.size := rfl
    have hroots : ∀ waiting ∈ [tree], waiting.Flagged := by simpa using hflags
    refine ⟨turns, hsizes ▸ hturns, last, hafter, hstack, ?_⟩
    calc last.found.toList
        = (Search.run { stack := [tree] }).toList := by rw [hfound]
      _ = Search.report { stack := [tree] } := Search.toList_run hroots
      _ = tree.diagnostics := by rw [diagnostics_eq hflags, Search.report]; simp
  · rw [List.pairwise_map]
    exact Tree.pairwise_topmost tree
  · intro place
    rw [List.mem_map]
    constructor
    · rintro ⟨⟨_, info⟩, hmem, rfl⟩
      exact (Tree.mem_topmost.1 hmem).1
    · intro htopmost
      obtain ⟨fault, hfault, -⟩ := htopmost.1
      exact ⟨(place, fault.info), Tree.mem_topmost.2 ⟨htopmost, fault, hfault, rfl⟩, rfl⟩
  · rw [diagnostics_eq hflags, List.forall₂_map_left_iff, List.forall₂_map_right_iff,
      List.forall₂_same]
    rintro ⟨place, info⟩ hmem
    obtain ⟨-, fault, hfault, rfl⟩ := Tree.mem_topmost.1 hmem
    exact describedBy_ofInfo hfault
  · rw [diagnostics_eq hflags, List.map_eq_nil_iff, Tree.topmost_eq_nil_iff]

/-- Faults at three depths, and a missing node below an error, which is not found. -/
theorem topmost_faults_found_nested :
    let skipped : Tree :=
      .node { kind := "ERROR", start := ⟨1, 4⟩, isError := true, hasError := true }
        [.leaf "number" ⟨1, 4⟩, .missing ";" ⟨1, 6⟩]
    let tree : Tree :=
      .branch "program" {}
        [.branch "call" ⟨0, 0⟩ [.leaf "name" ⟨0, 0⟩, .missing ")" ⟨0, 3⟩],
         .leaf "statement" ⟨1, 0⟩,
         skipped,
         .branch "element" ⟨2, 0⟩ [.branch "attribute" ⟨2, 1⟩ [.error ⟨2, 5⟩]]]
    tree.Flagged ∧
      tree.diagnostics = [⟨1, 4, some ")"⟩, ⟨2, 5, none⟩, ⟨3, 6, none⟩] ∧
      ∃ places : List (List Nat), places.Pairwise (· < ·) ∧
        (∀ place, place ∈ places ↔ tree.TopmostAt place) ∧
        List.Forall₂ tree.DescribedBy places tree.diagnostics := by
  intro skipped tree
  have hskipped : skipped.Flagged := by
    apply Tree.flagged_node
    · simp [Tree.flagged_leaf, Tree.flagged_missing]
    · simp
  have hflags : tree.Flagged := by
    apply Tree.flagged_branch
    simp [hskipped, Tree.flagged_branch, Tree.flagged_leaf, Tree.flagged_missing,
      Tree.flagged_error]
  obtain ⟨-, hplaces, -⟩ := topmost_faults_found hflags
  refine ⟨hflags, ?_, hplaces⟩
  rw [diagnostics_eq hflags]
  decide

end Wireform.Syntax
