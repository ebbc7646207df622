import Tincture.Proofs.Grammar.EndlessIncludes

/-!
# Computing what is made of a file

The compiler goes into a rule and along a list of rules in one recursion, and so does the search for what
a rule looks for. Such a recursion has equations, but does not reduce to a value. Here the two directions
are two recursions, one on the bound and one on the list, where what is done inside a rule is a parameter
of what is done along the list (`runRules`, `Flatten.searchChild`). They lead to the same
(`compile_eq_compute`), and by them it is computed what is made of a given file.
-/

namespace Tincture

/-! ### Searching for rules -/

namespace Flatten

/-- One rule of a list in the search for what a rule looks for; `enter` goes into a group. -/
def searchChild (rules : Array Rule) (enter : RuleId → List RuleId → Found → Found) (found : Found)
    (child : RuleId) : Found :=
  match rules[child]? with
  | none => found
  | some rule => match rule.kind with
    | .group patterns => if found.opened.contains child then found else enter child patterns found
    | _ => { found with targets := child :: found.targets }

/-- The search along a list, with at most `fuel` groups inside each other. -/
def search (rules : Array Rule) : (fuel : Nat) → List RuleId → Found → Found
  | 0, children, found => children.foldl (searchChild rules fun _ _ found => found) found
  | fuel + 1, children, found => children.foldl (searchChild rules fun child patterns found =>
      search rules fuel patterns { found with opened := child :: found.opened }) found

theorem collect_eq_search (rules : Array Rule) (fuel : Nat) (children : List RuleId)
    (found : Found) : collect rules fuel children found = search rules fuel children found := by
  -- into groups by the outer induction, along a list by the inner ones
  induction fuel generalizing children found with
  | zero =>
    rw [search]
    induction children generalizing found with
    | nil => rw [collect, List.foldl_nil]
    | cons child rest ih =>
      rw [collect, List.foldl_cons, ih]
      rfl
  | succ fuel ihfuel =>
    rw [search]
    induction children generalizing found with
    | nil => rw [collect, List.foldl_nil]
    | cons child rest ih =>
      rw [collect, List.foldl_cons, ih]
      simp only [ihfuel]
      rfl

/-- The scanner of a rule, by this search. -/
def searchedScanner (rules : Array Rule) (rule : Rule) : Option RuleScanner :=
  match rule.kind with
  | .single .. => none
  | kind =>
    let ids := (search rules rules.size kind.children ⟨[rule.id], []⟩).targets.reverse
    some ⟨⟨ids.map (entry rules)⟩, ids⟩

theorem scanner_eq_searchedScanner (rules : Array Rule) :
    scanner rules = searchedScanner rules := by
  funext rule
  have htargets : ∀ children, targets rules rule.id children =
      (search rules rules.size children ⟨[rule.id], []⟩).targets.reverse := fun children => by
    rw [targets, collect_eq_search]
  unfold scanner searchedScanner
  cases rule.kind with
  | single => rfl
  | region | whileRegion | group => simp only [htargets]

end Flatten

namespace Compile

/-! ### Numbering rules -/

/-- Numbers the rules of a list in their order, each by `one`. -/
def runRules (one : Address → RuleSpec → State → Except CompileError (Option RuleId × State))
    (parent : Address) : (index : Nat) → List RuleSpec → State →
      Except CompileError (List RuleId × State)
  | _, [], s => .ok ([], s)
  | index, spec :: rest, s => do
    let first ← one (.pattern index :: parent) spec s
    let others ← runRules one parent (index + 1) rest first.2
    return (first.1.toList ++ others.1, others.2)

/-- Numbers a rule, with at most `fuel` rules inside each other. -/
def runRule (ctx : Context) : (fuel : Nat) → List Repository → Address → RuleSpec → State →
    Except CompileError (Option RuleId × State)
  | 0, _, _, _, _ => .error .endlessInclude
  | fuel + 1, repositories, address, spec, s => do
    match ← follow ctx.scopeName repositories (ctx.count + 1) address spec with
    | .root => return (some Grammar.root, s)
    | .nothing => return (none, s)
    | .rule address spec =>
      match s.numbers.lookup address with
      | some id => return (some id, s)
      | none =>
        let inside ← runRules (runRule ctx fuel (openRepository address spec repositories)) address
          0 (listed spec) (s.entered address)
        finished ctx.options spec s.rules.size inside

section Run

variable (ctx : Context) (fuel : Nat) (repositories : List Repository)

theorem run_numberAll_eq_runRules
    (h : ∀ address spec s,
      (number ctx repositories fuel address spec).run s = runRule ctx fuel repositories address spec s)
    (parent : Address) (index : Nat) (rules : List RuleSpec) (s : State) :
    (numberAll ctx repositories fuel parent index rules).run s =
      runRules (runRule ctx fuel repositories) parent index rules s := by
  induction rules generalizing index s with
  | nil =>
    rw [numberAll]
    rfl
  | cons spec rest ih =>
    rw [run_numberAll_cons]
    simp only [h, ih, runRules]

theorem run_number_eq_runRule (address : Address) (spec : RuleSpec) (s : State) :
    (number ctx repositories fuel address spec).run s =
      runRule ctx fuel repositories address spec s := by
  induction fuel generalizing repositories address spec s with
  | zero => rw [run_number_zero, runRule]
  | succ fuel ih =>
    rw [run_number, runRule]
    refine bind_congr fun target => ?_
    cases target with
    | root => rfl
    | nothing => rfl
    | rule address spec =>
      dsimp only
      cases s.numbers.lookup address with
      | some id => rfl
      | none =>
        dsimp only
        rw [run_numberAll_eq_runRules ctx fuel _ (ih _)]

end Run

/-! ### Grammars -/

/-- What is made of a file, by these recursions. -/
def compute (options : EngineOptions) (g : GrammarSpec) : Except CompileError Grammar := do
  let ctx : Context := ⟨g.scopeName, options, specCount g⟩
  let numbered ← runRules (runRule ctx (ctx.count + 1) [⟨[], g.repository⟩]) [] 0 g.patterns
    State.started
  let root : Rule := { id := Grammar.root, kind := .group numbered.1 }
  let rules ← ruleTable (numbered.2.rules.setIfInBounds Grammar.root (some root))
  return {
    scopeName := g.scopeName
    name := g.name
    fileTypes := g.fileTypes
    rules := rules.toArray
    scanners := (rules.map (Flatten.searchedScanner rules.toArray)).toArray
    options }

/-- **Compiled grammars can be computed**: the compiler makes the same of a file. -/
theorem compile_eq_compute (options : EngineOptions) (g : GrammarSpec) :
    Grammar.compile options g = compute options g := by
  have hscanners : ∀ rules : List Rule, rules.toArray.map (Flatten.scanner rules.toArray) =
      (rules.map (Flatten.searchedScanner rules.toArray)).toArray := fun rules => by
    rw [Flatten.scanner_eq_searchedScanner, List.map_toArray]
  have hwalk := walk_eq options g (specCount g)
  rw [walk, run_numberAll_eq_runRules _ _ _ (run_number_eq_runRule _ _ _)] at hwalk
  rw [Grammar.compile, compute]
  dsimp only
  rw [hwalk]
  simp only [hscanners]
  cases runRules _ _ _ _ _ <;> rfl

end Compile

end Tincture
