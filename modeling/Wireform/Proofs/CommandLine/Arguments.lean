import Mathlib
import Wireform.CommandLine

/-!
# Spelled arguments

Every choice of arguments can be spelled on a command line: options in their long
form, with their values attached, and the path behind the end of the options.
Reading the spelling gives the arguments back, whatever the values are.
-/

namespace Wireform

theorem WiringMode.ofTag_tag (mode : WiringMode) : ofTag mode.tag = some mode := by
  cases mode <;> rfl

namespace CommandLine

/-- An option with its value, as one argument. -/
def spellOption (long value : String) : String :=
  "--" ++ long ++ "=" ++ value

/-- A flag, as one argument. -/
def spellFlag (long : String) : String := "--" ++ long

/-- The arguments of an option that may be missing. -/
def spellOptional (long : String) (value : Option String) : List String :=
  (value.map (spellOption long)).toList

/-- The arguments of a flag that may be missing. -/
def spellIf (long : String) (given : Bool) : List String :=
  if given then [spellFlag long] else []

/-- The options of a spelling. -/
def GenerateArgs.spelledOptions (args : GenerateArgs) : List String :=
  spellOptional "component-name" args.componentName
    ++ spellIf "no-typescript" args.noTypeScript
    ++ spellIf "no-hooks" args.noHooks
    ++ spellOptional "mode" (args.mode.map WiringMode.tag)
    ++ spellOptional "out" args.out
    ++ spellIf "validate" args.validate

/-- A command line for the arguments of `generate`. -/
def GenerateArgs.spelling (args : GenerateArgs) : List String :=
  "generate" :: (args.spelledOptions ++ "--" :: [args.path])

theorem splitEquals_of_not_mem {name : List Char} (hname : '=' ∉ name) :
    splitEquals name = (name, none) := by
  induction name with
  | nil => rfl
  | cons c rest ih =>
    rw [List.mem_cons, not_or] at hname
    simp [splitEquals, Ne.symm hname.1, ih hname.2]

theorem splitEquals_append {name : List Char} (hname : '=' ∉ name) (value : List Char) :
    splitEquals (name ++ '=' :: value) = (name, some value) := by
  induction name with
  | nil => rfl
  | cons c rest ih =>
    rw [List.mem_cons, not_or] at hname
    simp [splitEquals, Ne.symm hname.1, ih hname.2]

theorem toList_spellOption (long value : String) :
    (spellOption long value).toList =
      '-' :: '-' :: (long.toList ++ '=' :: value.toList) := by
  simp [spellOption]

theorem toList_spellFlag (long : String) :
    (spellFlag long).toList = '-' :: '-' :: long.toList := by
  simp [spellFlag]

theorem spelled_spellOption (specs : List OptionSpec) {long : String}
    (hlong : '=' ∉ long.toList) (value : String) :
    spelled specs (spellOption long value) =
      (specs.find? (·.long = long)).map fun spec => (spec, some value) := by
  simp [spelled, toList_spellOption, splitEquals_append hlong]

theorem spelled_spellFlag (specs : List OptionSpec) {long : String}
    (hlong : '=' ∉ long.toList) :
    spelled specs (spellFlag long) =
      (specs.find? (·.long = long)).map fun spec => (spec, none) := by
  simp [spelled, toList_spellFlag, splitEquals_of_not_mem hlong]

/-! ## Sorting out a spelling -/

/-- What is given, with the value of an option if there is one. -/
def Given.addOptional (given : Given) (long : String) (value : Option String) : Given :=
  { given with options := given.options ++ (value.map fun text => (long, text)).toList }

theorem Given.value_addOptional (given : Given) (long other : String)
    (value : Option String) :
    (given.addOptional long value).value other =
      (given.value other).or (if other = long then value else none) := by
  cases value with
  | none => simp [addOptional, Given.value]
  | some text =>
    by_cases hother : other = long
    · simp [addOptional, Given.value, List.lookup_append, hother]
    · have hbeq : (other == long) = false := beq_eq_false_iff_ne.2 hother
      simp [addOptional, Given.value, List.lookup_append, List.lookup_cons, hother, hbeq]

section SortOut

variable {specs : List OptionSpec} {given : Given} {spec : OptionSpec} {long : String}

theorem long_of_find? (hspec : specs.find? (·.long = long) = some spec) :
    spec.long = long := by
  have hfound := List.find?_some hspec
  exact of_decide_eq_true hfound

theorem sortOut_spellOptional (hspec : specs.find? (·.long = long) = some spec)
    (htakes : spec.takesValue = true) (hlong : '=' ∉ long.toList)
    (hnew : given.value long = none) (value : Option String) (rest : List String) :
    sortOut specs given (spellOptional long value ++ rest) =
      sortOut specs (given.addOptional long value) rest := by
  cases value with
  | none => simp [spellOptional, Given.addOptional]
  | some text =>
    have hend : spellOption long text ≠ "--" := by
      intro heq
      have hchars := congrArg String.toList heq
      simp [toList_spellOption] at hchars
    have hoption : isOption (spellOption long text) = true := by
      simp [isOption, toList_spellOption]
    simp [spellOptional, sortOut, hend, hoption, spelled_spellOption specs hlong, hspec,
      htakes, long_of_find? hspec, Given.add, Given.has, hnew, Given.addOptional]

theorem sortOut_spellIf (hspec : specs.find? (·.long = long) = some spec)
    (htakes : spec.takesValue = false) (hlong : '=' ∉ long.toList)
    (hname : long.toList ≠ []) (hnew : given.value long = none) (flag : Bool)
    (rest : List String) :
    sortOut specs given (spellIf long flag ++ rest) =
      sortOut specs (given.addOptional long (if flag then some "" else none)) rest := by
  cases flag with
  | false => simp [spellIf, Given.addOptional]
  | true =>
    have hend : spellFlag long ≠ "--" := by
      intro heq
      have hchars := congrArg String.toList heq
      rw [toList_spellFlag] at hchars
      exact hname (List.cons.inj (List.cons.inj hchars).2).2
    have hoption : isOption (spellFlag long) = true := by
      obtain ⟨first, rest, hcons⟩ := List.exists_cons_of_ne_nil hname
      simp [isOption, toList_spellFlag, hcons]
    simp [spellIf, sortOut, hend, hoption, spelled_spellFlag specs hlong, hspec,
      htakes, long_of_find? hspec, Given.add, Given.has, hnew, Given.addOptional]

end SortOut

/-- All that a spelling gives. -/
def GenerateArgs.given (args : GenerateArgs) : Given :=
  let given : Given := {}
  let given := given.addOptional "component-name" args.componentName
  let given := given.addOptional "no-typescript" (if args.noTypeScript then some "" else none)
  let given := given.addOptional "no-hooks" (if args.noHooks then some "" else none)
  let given := given.addOptional "mode" (args.mode.map WiringMode.tag)
  let given := given.addOptional "out" args.out
  let given := given.addOptional "validate" (if args.validate then some "" else none)
  given.addPositional args.path

theorem Given.value_empty (long : String) : ({} : Given).value long = none := rfl

theorem sortOut_spelling (args : GenerateArgs) :
    sortOut generateSpecs {} args.spelling.tail = some args.given := by
  -- Each long name stands once in a spelling, so that no option is given twice.
  simp only [GenerateArgs.spelling, GenerateArgs.spelledOptions, List.tail_cons,
    List.append_assoc]
  rw [sortOut_spellOptional rfl rfl (by decide) (Given.value_empty _)]
  rw [sortOut_spellIf rfl rfl (by decide) (by decide)
    (by simp [Given.value_addOptional, Given.value_empty])]
  rw [sortOut_spellIf rfl rfl (by decide) (by decide)
    (by simp [Given.value_addOptional, Given.value_empty])]
  rw [sortOut_spellOptional rfl rfl (by decide)
    (by simp [Given.value_addOptional, Given.value_empty])]
  rw [sortOut_spellOptional rfl rfl (by decide)
    (by simp [Given.value_addOptional, Given.value_empty])]
  rw [sortOut_spellIf rfl rfl (by decide) (by decide)
    (by simp [Given.value_addOptional, Given.value_empty])]
  rfl

theorem value_given (args : GenerateArgs) (long : String) :
    args.given.value long =
      if long = "component-name" then args.componentName
      else if long = "no-typescript" then (if args.noTypeScript then some "" else none)
      else if long = "no-hooks" then (if args.noHooks then some "" else none)
      else if long = "mode" then args.mode.map WiringMode.tag
      else if long = "out" then args.out
      else if long = "validate" then (if args.validate then some "" else none)
      else none := by
  have hpositional (given : Given) (path : String) :
      (given.addPositional path).value long = given.value long := rfl
  simp only [GenerateArgs.given, hpositional, Given.value_addOptional, Given.value_empty,
    Option.none_or]
  grind

theorem readGenerate_spelling (args : GenerateArgs) :
    readGenerate args.spelling.tail = some args := by
  have hpath : args.given.onlyPath = some args.path := rfl
  have hmode : args.given.mode = some args.mode := by
    rw [Given.mode, value_given]
    cases hmode : args.mode with
    | none => simp
    | some mode => simp [WiringMode.ofTag_tag]
  have hflag (flag : Bool) : (if flag then some "" else none).isSome = flag := by
    cases flag <;> rfl
  rw [readGenerate, sortOut_spelling]
  simp [hpath, hmode, Given.has, value_given, hflag]

/-! ## Spellings are read back -/

theorem mem_left_of_mem_beforeEnd {argument : String} {left right : List String}
    (hmem : argument ∈ beforeEnd (left ++ "--" :: right)) : argument ∈ left := by
  unfold beforeEnd at hmem
  induction left with
  | nil => simp at hmem
  | cons first rest ih =>
    by_cases hend : first = "--"
    · simp [hend] at hmem
    · rw [List.cons_append, List.takeWhile_cons_of_pos (by simpa using hend),
        List.mem_cons] at hmem
      rcases hmem with rfl | hmem
      · exact List.mem_cons_self
      · exact List.mem_cons_of_mem _ (ih hmem)

/-- An option in its long form asks for help only if its name begins so. -/
theorem ne_help {argument : String} {first : Char} {rest : List Char}
    (hchars : argument.toList = '-' :: '-' :: first :: rest) (hfirst : first ≠ 'h') :
    argument ≠ "-h" ∧ argument ≠ "--help" := by
  constructor
  · rintro rfl
    simp at hchars
  · rintro rfl
    simp [Ne.symm hfirst] at hchars

theorem ne_help_of_mem_spellOptional {argument long : String} {value : Option String}
    {first : Char} {rest : List Char} (hlong : long.toList = first :: rest)
    (hfirst : first ≠ 'h') (hmem : argument ∈ spellOptional long value) :
    argument ≠ "-h" ∧ argument ≠ "--help" := by
  cases value with
  | none => cases hmem
  | some text =>
    obtain rfl := List.mem_singleton.1 hmem
    have hchars : (spellOption long text).toList =
        '-' :: '-' :: first :: (rest ++ '=' :: text.toList) := by
      rw [toList_spellOption, hlong, List.cons_append]
    exact ne_help hchars hfirst

theorem ne_help_of_mem_spellIf {argument long : String} {flag : Bool}
    {first : Char} {rest : List Char} (hlong : long.toList = first :: rest)
    (hfirst : first ≠ 'h') (hmem : argument ∈ spellIf long flag) :
    argument ≠ "-h" ∧ argument ≠ "--help" := by
  cases flag with
  | false => cases hmem
  | true =>
    obtain rfl := List.mem_singleton.1 hmem
    have hchars : (spellFlag long).toList = '-' :: '-' :: first :: rest := by
      rw [toList_spellFlag, hlong]
    exact ne_help hchars hfirst

theorem readCommand_spelling (args : GenerateArgs) :
    readCommand args.spelling = some (.generate args) := by
  -- Help is looked for before the end of the options, so a path may be `--help`.
  have hhelp : (beforeEnd args.spelling.tail).any (fun argument =>
      argument = "-h" || argument = "--help") = false := by
    rw [List.any_eq_false]
    intro argument hmem
    have hoption : argument ∈ args.spelledOptions := mem_left_of_mem_beforeEnd hmem
    have hne : argument ≠ "-h" ∧ argument ≠ "--help" := by
      simp only [GenerateArgs.spelledOptions, List.mem_append] at hoption
      rcases hoption with ((((hmem | hmem) | hmem) | hmem) | hmem) | hmem
      · exact ne_help_of_mem_spellOptional rfl (by decide) hmem
      · exact ne_help_of_mem_spellIf rfl (by decide) hmem
      · exact ne_help_of_mem_spellIf rfl (by decide) hmem
      · exact ne_help_of_mem_spellOptional rfl (by decide) hmem
      · exact ne_help_of_mem_spellOptional rfl (by decide) hmem
      · exact ne_help_of_mem_spellIf rfl (by decide) hmem
    simp [hne.1, hne.2]
  have hcommand : args.spelling = "generate" :: args.spelling.tail := rfl
  rw [hcommand, readCommand, hhelp, readGenerate_spelling]
  simp [isHelp]

end CommandLine

end Wireform
