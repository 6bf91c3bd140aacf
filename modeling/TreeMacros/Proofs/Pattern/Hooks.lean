import Mathlib.Data.List.Induction
import TreeMacros.Proofs.Pattern.Regular

/-! # Hooks take precedence, and change nothing else

Hooks come and go, and the one that was registered last is asked first. It decides alone about the
nodes that it claims. A matcher asks its hooks about a pattern and the nodes in it, and about no
others; if none of these is claimed, then the pattern means what it means without hooks.

A hook may ask back, also about nodes that are no parts of the pattern. What it is told is a
parameter here. In a program, hooks are told what the same matcher answers.
-/

namespace TreeMacros

/-- A hook as a host writes it. It may ask what any node means, also a node that it has made. -/
structure HostHook where
  name : String
  /-- Whether the hook takes over a node. -/
  claims : Node → Bool
  /-- What a claimed node means, by what the hook is told about nodes that it asks about. -/
  matcher : (Node → Matcher) → Node → Matcher

/-- The hook, if it is known what it is told. -/
def HostHook.told (hook : HostHook) (next : Node → Matcher) : Hook :=
  ⟨hook.name, hook.claims, fun node _ => hook.matcher next node⟩

/-! ## Matchers over time -/

/-- What can be done to a matcher. -/
inductive HookStep where
  | register (hook : HostHook)
  | clear

/-- The hook that a step registers. -/
def HookStep.hook? : HookStep → Option HostHook
  | .register hook => some hook
  | .clear => none

namespace PatternMatcher

variable (next : Node → Matcher)

def step (matcher : PatternMatcher) : HookStep → PatternMatcher
  | .register hook => matcher.register (hook.told next)
  | .clear => matcher.clear

/-- The matcher that steps lead to, from one without hooks. -/
def after (steps : List HookStep) : PatternMatcher :=
  steps.foldl (step next) {}

variable {next}

/-- Steps that clear nothing put what they register ahead of the hooks, the last one first. -/
theorem hooks_foldl_step (matcher : PatternMatcher) {steps : List HookStep}
    (kept : .clear ∉ steps) :
    (steps.foldl (step next) matcher).hooks =
      ((steps.filterMap HookStep.hook?).map (·.told next)).reverse ++ matcher.hooks := by
  induction steps generalizing matcher with
  | nil => rfl
  | cons first rest ih =>
      obtain ⟨here, later⟩ := not_or.mp (List.mem_cons.not.mp kept)
      cases first with
      | clear => exact absurd rfl here
      | register hook =>
          rw [List.foldl_cons, ih _ later]
          simp [step, register, HookStep.hook?]

/-- The hooks of a matcher were registered at some time, and not cleared since. -/
theorem mem_hooks_after {steps : List HookStep} {hook : Hook}
    (mem : hook ∈ (after next steps).hooks) :
    ∃ earlier host later, steps = earlier ++ .register host :: later ∧ .clear ∉ later ∧
      hook = host.told next := by
  induction steps using List.reverseRecOn with
  | nil => cases mem
  | append_singleton steps last ih =>
      rw [after, List.foldl_append] at mem
      cases last with
      | clear => cases mem
      | register newest =>
          obtain rfl | older := List.mem_cons.mp mem
          · exact ⟨steps, newest, [], rfl, List.not_mem_nil, rfl⟩
          · obtain ⟨earlier, host, later, rfl, kept, told⟩ := ih older
            exact ⟨earlier, host, later ++ [.register newest], by simp, by simpa using kept, told⟩

/-- The hook that a matcher asks about a node is the last one registered that claims it. -/
theorem find?_hooks_after {earlier later : List HookStep} {hook : HostHook} {node : Node}
    (kept : .clear ∉ later) (claims : hook.claims node = true)
    (last : ∀ newer, .register newer ∈ later → newer.claims node = false) :
    (after next (earlier ++ .register hook :: later)).hooks.find? (·.claims node) =
      some (hook.told next) := by
  have newest : ((later.filterMap HookStep.hook?).map (·.told next)).reverse.find?
      (·.claims node) = none := by
    simp only [List.find?_eq_none, List.mem_reverse, List.mem_map, List.mem_filterMap]
    rintro _ ⟨newer, ⟨step, there, registers⟩, rfl⟩
    cases step with
    | clear => cases registers
    | register other =>
        cases registers
        simp [HostHook.told, last newer there]
  rw [after, List.foldl_append, List.foldl_cons, hooks_foldl_step _ kept, List.find?_append,
    newest]
  simp [step, register, HostHook.told, claims]

end PatternMatcher

/-! ## The meaning of claimed and of unclaimed nodes -/

namespace Node

variable {hooks : List Hook}

/-- A hook gives the nodes that it is the first to claim their meaning. -/
theorem matcher_toPattern_claimed {node : Node} {hook : Hook}
    (first : hooks.find? (·.claims node) = some hook) :
    (node.toPattern hooks).matcher = hook.matcher node (node.parts.map (toPattern hooks)) := by
  cases node with
  | leaf | binop => simp [toPattern, Pattern.matcher, Matcher.hooked, first, parts]
  | bracket kind children loc =>
      simp [toPattern, Pattern.matcher, Matcher.hooked, first, parts, toPatterns_eq_map]

/-- If hooks give the nodes in a node the same meanings from the same parts, then they give it the
    same meaning. -/
theorem toPattern_congr {hooks' : List Hook} (node : Node)
    (same : ∀ inner, node.Contains inner → ∀ own,
      Matcher.hooked hooks inner (inner.parts.map (toPattern hooks')) own =
        Matcher.hooked hooks' inner (inner.parts.map (toPattern hooks')) own) :
    node.toPattern hooks = node.toPattern hooks' := by
  induction node using parts_induction with
  | step whole ih =>
      have own := same whole (.self whole)
      have inside : ∀ part ∈ whole.parts, part.toPattern hooks = part.toPattern hooks' :=
        fun part direct => ih part direct fun inner contains => same inner (.inside direct contains)
      cases whole with
      | leaf kind text loc =>
          rw [toPattern, toPattern]
          exact congrArg (Pattern.mk _ · _) (own _)
      | binop left operator right loc =>
          obtain ⟨lefts, rights⟩ : left.toPattern hooks = left.toPattern hooks' ∧
              right.toPattern hooks = right.toPattern hooks' := by
            simpa [parts] using inside
          rw [toPattern, toPattern, lefts, rights]
          exact congrArg (Pattern.mk _ · _) (own _)
      | bracket kind children loc =>
          have all : children.map (toPattern hooks) = children.map (toPattern hooks') :=
            List.map_congr_left inside
          rw [toPattern, toPattern, toPatterns_eq_map, toPatterns_eq_map, all]
          exact congrArg (Pattern.mk _ · _) (own _)

/-- If nothing in a node is claimed, the hooks change nothing about its meaning. -/
theorem toPattern_unclaimed (node : Node)
    (unclaimed : ∀ inner, node.Contains inner → ∀ hook ∈ hooks, hook.claims inner = false) :
    node.toPattern hooks = node.toPattern [] :=
  toPattern_congr node fun inner contains own => by
    have bare : ∀ hook ∈ ([] : List Hook), hook.claims inner = false := nofun
    rw [Matcher.hooked_own (unclaimed inner contains), Matcher.hooked_own bare]

end Node

namespace PatternMatcher

/-- Among the hooks that were registered and not cleared since, the last one that claims a pattern
    decides about it, also if it fails, whatever hooks are told when they ask. If no hook claims
    anything in the pattern, a match is what it is without hooks. -/
theorem hooks_decide (steps : List HookStep) (next : Node → Matcher) (datum : Datum)
    (pattern : Node) (env : Bindings) :
    (∀ earlier hook later, steps = earlier ++ .register hook :: later → .clear ∉ later →
      hook.claims pattern = true →
      (∀ newer, .register newer ∈ later → newer.claims pattern = false) →
      (after next steps).bindings? datum pattern env = hook.matcher next pattern datum env) ∧
    ((∀ earlier hook later, steps = earlier ++ .register hook :: later → .clear ∉ later →
      ∀ inner, pattern.Contains inner → hook.claims inner = false) →
      (after next steps).bindings? datum pattern env =
        PatternMatcher.bindings? {} datum pattern env) := by
  constructor
  · rintro earlier hook later rfl kept claims last
    let hooks := (after next (earlier ++ .register hook :: later)).hooks
    have first : hooks.find? (·.claims pattern) = some (hook.told next) :=
      find?_hooks_after kept claims last
    exact congrFun (congrFun (Node.matcher_toPattern_claimed first) datum) env
  · intro unclaimed
    have none : ∀ inner, pattern.Contains inner → ∀ hook ∈ (after next steps).hooks,
        hook.claims inner = false := by
      intro inner contains hook mem
      obtain ⟨earlier, host, later, registered, kept, rfl⟩ := mem_hooks_after mem
      exact unclaimed earlier host later registered kept inner contains
    rw [bindings?, pattern.toPattern_unclaimed none]
    rfl

/-- The newer one of two hooks refuses a list that the older one and the form itself accept. It
    leaves names alone. -/
theorem hooks_decide_refusing :
    let lenient : HostHook := ⟨"lenient", (·.isHeaded "$r"), fun next _ => next (.ident "_")⟩
    let refusing : HostHook := ⟨"refusing", (·.isHeaded "$r"), fun _ _ _ _ => none⟩
    let steps := [.register refusing, .clear, .register lenient, .register refusing]
    let next := fun node datum env => PatternMatcher.bindings? {} datum node env
    (after next steps).bindings? (.list []) (.curly [.ident "$r"]) [] = none ∧
      (after next steps).bindings? (.string "a") (.ident "a") [] =
        PatternMatcher.bindings? {} (.string "a") (.ident "a") [] := by
  intro lenient refusing steps next
  constructor
  · exact (hooks_decide steps next (.list []) (.curly [.ident "$r"]) []).1
      [.register refusing, .clear, .register lenient] refusing [] rfl nofun rfl nofun
  · refine (hooks_decide steps next (.string "a") (.ident "a") []).2 ?_
    intro earlier hook later registered _ inner contains
    obtain rfl := Node.contains_leaf.mp contains
    have mem : HookStep.register hook ∈ steps := by simp [registered]
    simp only [steps, List.mem_cons, HookStep.register.injEq, List.not_mem_nil, or_false] at mem
    obtain rfl | ⟨⟨⟩⟩ | rfl | rfl := mem <;> rfl

end PatternMatcher

end TreeMacros
