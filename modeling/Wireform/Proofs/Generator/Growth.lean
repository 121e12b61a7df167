import Mathlib
import Wireform.Proofs.Generator.Connections
import Wireform.Proofs.Generator.Dependence
import Wireform.Proofs.Generator.Layout

/-!
# Diagrams that grow

Nodes at the end of a diagram add lines to its component and take none away.  A
component is closed lines and an export at the end, so it is enough to compare lists
of lines: each block that a diagram has is still there when the diagram grows, with
the same lines in the same order.  Lines may hold line feeds of their own, from a label
or a name; the lines that are counted in the end are those between line feeds.
-/

namespace Wireform

/-- What stands between the line feeds of a text. -/
def linesOf (text : String) : List (List Char) :=
  text.toList.splitOn '\n'

/-- A text that is empty or ends with a line feed. -/
def Closed (text : String) : Prop :=
  ∃ lines, text = Text.unlines lines

/-- A text of closed lines, and one with more lines. -/
def Grows (small large : String) : Prop :=
  ∃ lines lines', small = Text.unlines lines ∧ large = Text.unlines lines' ∧
    lines.Sublist lines'

/-! ## Lines -/

theorem linesOf_append_lineFeed (left right : String) :
    linesOf (left ++ "\n" ++ right) = linesOf left ++ linesOf right := by
  have hchars : (left ++ "\n" ++ right).toList = left.toList ++ '\n' :: right.toList := by
    simp
  rw [linesOf, hchars]
  exact List.splitOnP_append_cons _ _ (beq_self_eq_true '\n')

theorem linesOf_unlines_append (lines : List String) (last : String) :
    linesOf (Text.unlines lines ++ last) = lines.flatMap linesOf ++ linesOf last := by
  induction lines with
  | nil => simp
  | cons line lines ih =>
    rw [Component.unlines_cons, String.append_assoc, linesOf_append_lineFeed, ih,
      List.flatMap_cons, List.append_assoc]

theorem closed_append (left : String) {right : String}
    (hlast : right.toList.getLast? = some '\n') : Closed (left ++ right) := by
  obtain ⟨before, hbefore⟩ := List.getLast?_eq_some_iff.1 hlast
  refine ⟨[left ++ String.ofList before], ?_⟩
  rw [← String.toList_inj, String.toList_append, hbefore]
  simp

namespace Grows

variable {small large small' large' : String}

theorem refl (hclosed : Closed small) : Grows small small := by
  obtain ⟨lines, hlines⟩ := hclosed
  exact ⟨lines, lines, hlines, hlines, .refl lines⟩

theorem of_empty (hclosed : Closed large) : Grows "" large := by
  obtain ⟨lines, hlines⟩ := hclosed
  exact ⟨[], lines, rfl, hlines, lines.nil_sublist⟩

theorem append (hleft : Grows small large) (hright : Grows small' large') :
    Grows (small ++ small') (large ++ large') := by
  obtain ⟨lines, lines', rfl, rfl, hsublist⟩ := hleft
  obtain ⟨more, more', rfl, rfl, hmore⟩ := hright
  exact ⟨lines ++ more, lines' ++ more', (Component.unlines_append _ _).symm,
    (Component.unlines_append _ _).symm, hsublist.append hmore⟩

/-- Fragments that are added to others add their lines. -/
theorem render {fragments fragments' : List Fragment}
    (hsublist : fragments.Sublist fragments')
    (hclosed : ∀ fragment ∈ fragments', Closed fragment.text) :
    Grows (Fragment.render fragments) (Fragment.render fragments') := by
  have hcons (fragment : Fragment) (fragments : List Fragment) :
      Fragment.render (fragment :: fragments) =
        fragment.text ++ Fragment.render fragments := by
    simp [Fragment.render]
  induction hsublist with
  | slnil => exact refl ⟨[], rfl⟩
  | cons fragment hsublist ih =>
    have hadded := of_empty (hclosed fragment List.mem_cons_self)
    have hrest := ih fun other hother => hclosed other (List.mem_cons_of_mem _ hother)
    rw [hcons]
    simpa using hadded.append hrest
  | cons_cons fragment hsublist ih =>
    have hkept := refl (hclosed fragment List.mem_cons_self)
    have hrest := ih fun other hother => hclosed other (List.mem_cons_of_mem _ hother)
    rw [hcons, hcons]
    exact hkept.append hrest

/-- The lines of the smaller text are among those of the larger one. -/
theorem linesOf_sublist (hgrows : Grows small large) (last : String) :
    (linesOf (small ++ last)).Sublist (linesOf (large ++ last)) := by
  obtain ⟨lines, lines', rfl, rfl, hsublist⟩ := hgrows
  rw [linesOf_unlines_append, linesOf_unlines_append]
  exact (hsublist.flatMap linesOf).append (.refl _)

end Grows

/-! ## Groups -/

theorem ofNodes_append (nodes added : List Node) :
    NodeGroups.ofNodes (nodes ++ added) =
      { inputs := (NodeGroups.ofNodes nodes).inputs ++ (NodeGroups.ofNodes added).inputs
        processes :=
          (NodeGroups.ofNodes nodes).processes ++ (NodeGroups.ofNodes added).processes
        outputs := (NodeGroups.ofNodes nodes).outputs ++ (NodeGroups.ofNodes added).outputs
        datastores :=
          (NodeGroups.ofNodes nodes).datastores ++ (NodeGroups.ofNodes added).datastores } := by
  simp [NodeGroups.ofNodes]

theorem firstInputName_append {nodes : List Node} (added : List Node)
    (hinput : ∃ node ∈ nodes, node.kind = .input) :
    (NodeGroups.ofNodes (nodes ++ added)).firstInputName =
      (NodeGroups.ofNodes nodes).firstInputName := by
  obtain ⟨node, hnode, hkind⟩ := hinput
  have hinputs := List.ne_nil_of_mem (Wiring.mem_inputs.2 ⟨hnode, hkind⟩)
  obtain ⟨first, rest, hcons⟩ := List.exists_cons_of_ne_nil hinputs
  simp [NodeGroups.firstInputName, ofNodes_append, hcons]

namespace Component

/-! ## Fragments -/

section

variable (settings : Settings) (nodes added : List Node)

/-- Only the last fragment does not end with a line feed. -/
theorem closed_beforeMarkup :
    ∀ fragment ∈ beforeMarkup settings nodes, Closed fragment.text := by
  intro fragment hfragment
  simp only [beforeMarkup, declarations, List.mem_append, List.mem_singleton] at hfragment
  rcases hfragment with ((rfl | htypes) | rfl) | hdeclared
  · exact closed_append _ (by decide)
  · split at htypes
    · obtain rfl := List.mem_singleton.1 htypes
      exact closed_append _ (by decide)
    · cases htypes
  · rw [Fragment.header]
    split
    · exact closed_append _ (by decide)
    · exact closed_append _ (by decide)
  · split at hdeclared
    · rcases List.mem_append.1 hdeclared with hstate | hhandler
      · obtain ⟨node, -, rfl⟩ := List.mem_map.1 hstate
        exact closed_append _ (by decide)
      · obtain ⟨node, -, rfl⟩ := List.mem_map.1 hhandler
        exact closed_append _ (by decide)
    · cases hdeclared

theorem declarations_sublist :
    (declarations settings (NodeGroups.ofNodes nodes)).Sublist
      (declarations settings (NodeGroups.ofNodes (nodes ++ added))) := by
  rw [declarations, declarations, ofNodes_append]
  split
  · rw [List.map_append, List.map_append]
    exact (List.sublist_append_left _ _).append (List.sublist_append_left _ _)
  · exact .refl _

theorem beforeMarkup_sublist :
    (beforeMarkup settings nodes).Sublist (beforeMarkup settings (nodes ++ added)) :=
  (List.Sublist.refl _).append (declarations_sublist settings nodes added)

/-! ## Markup -/

theorem callsLines_sublist (wiring : Wiring) (processes more : List Node) :
    (Markup.callsLines wiring processes).Sublist
      (Markup.callsLines wiring (processes ++ more)) := by
  cases processes with
  | nil => exact List.nil_sublist _
  | cons first rest =>
    rw [List.cons_append, Markup.callsLines, Markup.callsLines, List.flatMap_append]
    exact (List.Sublist.refl _).append (List.sublist_append_left _ _)

theorem triggerLines_sublist (wiring : Wiring) (processes more : List Node) :
    (Markup.triggerLines settings wiring processes).Sublist
      (Markup.triggerLines settings wiring (processes ++ more)) := by
  have hcalls := callsLines_sublist wiring processes more
  exact (((List.Sublist.refl _).append hcalls).append (.refl _)).append (.refl _)

theorem displaysLines_sublist (outputs more : List Node) :
    (Markup.displaysLines outputs).Sublist (Markup.displaysLines (outputs ++ more)) := by
  cases outputs with
  | nil => exact List.nil_sublist _
  | cons first rest =>
    rw [Markup.displaysLines, Markup.displaysLines, List.flatMap_append]
    exact (List.Sublist.refl _).append (List.sublist_append_left _ _)

/-- What the markup of a diagram has is in the markup of a larger one, if the calls that
were made before are made with the same argument. -/
theorem lines_sublist {wiring wiring' : Wiring}
    (hwiring : (NodeGroups.ofNodes nodes).processes ≠ [] → wiring' = wiring) :
    (Markup.lines settings wiring (NodeGroups.ofNodes nodes)).Sublist
      (Markup.lines settings wiring' (NodeGroups.ofNodes (nodes ++ added))) := by
  have htrigger (processes more : List Node) (hsame : processes ≠ [] → wiring' = wiring) :
      (if processes.isEmpty then [] else Markup.triggerLines settings wiring processes).Sublist
        (if (processes ++ more).isEmpty then []
        else Markup.triggerLines settings wiring' (processes ++ more)) := by
    cases processes with
    | nil => exact List.nil_sublist _
    | cons first rest =>
      rw [hsame (List.cons_ne_nil _ _)]
      exact triggerLines_sublist settings wiring (first :: rest) more
  rw [ofNodes_append, Markup.lines, Markup.lines, List.flatMap_append]
  apply List.Sublist.append _ (.refl _)
  apply List.Sublist.append _ (displaysLines_sublist _ _)
  apply List.Sublist.append _ (htrigger _ _ hwiring)
  apply List.Sublist.append (.refl _)
  exact List.sublist_append_left _ _

/-- The code of a component around the lines of its markup. -/
theorem generate_eq_unlines (edges : List Edge)
    (hname : Text.isBlank settings.componentName = false) :
    let groups := NodeGroups.ofNodes nodes
    let wiring := Wiring.ofMode settings.mode groups edges
    generate settings nodes edges =
      .ok (Fragment.render (beforeMarkup settings nodes)
        ++ Text.unlines (Markup.lines settings wiring groups)
        ++ Fragment.render (afterMarkup settings)) := by
  intro groups wiring
  have hmarkup : Text.unlines (Markup.lines settings wiring groups) =
      (Markup.frame settings).fill (Markup.blocks settings wiring groups) :=
    congrArg Fragment.text (Markup.fragment_eq_fill settings wiring groups)
  rw [hmarkup]
  exact generate_eq_fill settings nodes edges hname

theorem grows_markup {wiring wiring' : Wiring}
    (hwiring : (NodeGroups.ofNodes nodes).processes ≠ [] → wiring' = wiring) :
    Grows
      (Fragment.render (beforeMarkup settings nodes)
        ++ Text.unlines (Markup.lines settings wiring (NodeGroups.ofNodes nodes)))
      (Fragment.render (beforeMarkup settings (nodes ++ added))
        ++ Text.unlines
          (Markup.lines settings wiring' (NodeGroups.ofNodes (nodes ++ added)))) := by
  apply Grows.append
  · exact Grows.render (beforeMarkup_sublist settings nodes added)
      (closed_beforeMarkup settings (nodes ++ added))
  · exact ⟨_, _, rfl, rfl, lines_sublist settings nodes added hwiring⟩

end

/-- Datastores are like nothing at all. -/
theorem alike_append_datastores (nodes : List Node) {added : List Node}
    (edges edges' : List Edge) (hstores : ∀ node ∈ added, node.kind = .datastore) :
    Alike .flat (nodes ++ added) nodes edges edges' := by
  have hnone (kind : NodeKind) (hkind : kind ≠ .datastore) :
      added.filter (fun node => decide (node.kind = kind)) = [] := by
    rw [List.filter_eq_nil_iff]
    intro node hnode hsame
    exact hkind ((of_decide_eq_true hsame).symm.trans (hstores node hnode))
  have hgroups := ofNodes_append nodes added
  constructor
  · rw [hgroups, NodeGroups.ofNodes, NodeGroups.ofNodes, hnone .input (by decide),
      List.append_nil]
  · rw [hgroups, NodeGroups.ofNodes, NodeGroups.ofNodes, hnone .process (by decide),
      List.append_nil]
  · rw [hgroups, NodeGroups.ofNodes, NodeGroups.ofNodes, hnone .output (by decide),
      List.append_nil]
  all_goals
    intro hconnected
    cases hconnected

/-- Under flat wiring a component keeps all its lines, in their order, when nodes are
added to the diagram, unless its handlers had no input to be called with and may have
one now.  Datastores change nothing. -/
theorem lines_kept {settings : Settings}
    (hname : Text.isBlank settings.componentName = false) (hmode : settings.mode = .flat)
    (nodes added : List Node) (edges edges' : List Edge) :
    ∃ code grown, generate settings nodes edges = .ok code ∧
      generate settings (nodes ++ added) edges' = .ok grown ∧
      ((∃ node ∈ nodes, node.kind = .input) ∨ (∀ node ∈ nodes, node.kind ≠ .process) →
        (linesOf code).Sublist (linesOf grown)) ∧
      ((∀ node ∈ added, node.kind = .datastore) → grown = code) := by
  have hcode := generate_eq_unlines settings nodes edges hname
  have hgrown := generate_eq_unlines settings (nodes ++ added) edges' hname
  refine ⟨_, _, hcode, hgrown, ?_, ?_⟩
  · intro hfed
    apply Grows.linesOf_sublist
    apply grows_markup
    intro hprocesses
    have hinput : ∃ node ∈ nodes, node.kind = .input := by
      rcases hfed with hinput | hnone
      · exact hinput
      · obtain ⟨process, hprocess⟩ := List.exists_mem_of_ne_nil _ hprocesses
        obtain ⟨hmem, hkind⟩ := Wiring.mem_processes.1 hprocess
        exact absurd hkind (hnone process hmem)
    rw [hmode, Wiring.ofMode, Wiring.ofMode, Wiring.flat, Wiring.flat,
      firstInputName_append added hinput]
  · intro hstores
    have halike := alike_append_datastores nodes edges' edges hstores
    rw [← hmode] at halike
    have hsame : generate settings (nodes ++ added) edges' = generate settings nodes edges := by
      rw [generate, generate, fragments_eq_of_alike halike]
    exact Except.ok.inj (hgrown.symm.trans (hsame.trans hcode))

/-- A label with a line feed in it, and a node of each kind that comes to it. -/
theorem lines_kept_multiline :
    let settings : Settings := { componentName := "Form" }
    let nodes : List Node :=
      [{ id := "1", kind := .process, attributes := {} },
       { id := "2", kind := .input, attributes := { label := some "E\nMail" } }]
    let added : List Node :=
      [{ id := "3", kind := .output, attributes := {} },
       { id := "4", kind := .process, attributes := { functionName := some "send" } },
       { id := "2", kind := .input, attributes := {} },
       { id := "5", kind := .datastore }]
    Text.isBlank settings.componentName = false ∧ settings.mode = .flat ∧
      ∃ code grown, generate settings nodes [] = .ok code ∧
        generate settings (nodes ++ added) [] = .ok grown ∧
        (linesOf code).Sublist (linesOf grown) := by
  intro settings nodes added
  have hname : Text.isBlank settings.componentName = false := by decide
  have hinput : ∃ node ∈ nodes, node.kind = .input := by simp [nodes]
  obtain ⟨code, grown, hcode, hgrown, hkept, -⟩ := lines_kept hname rfl nodes added [] []
  exact ⟨hname, rfl, code, grown, hcode, hgrown, hkept (.inl hinput)⟩

end Component

end Wireform
