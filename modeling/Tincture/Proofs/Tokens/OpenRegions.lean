import Mathlib.Data.List.Chain
import Tincture.Proofs.Tokens.Begun

/-!
# Open regions

What a compiled grammar hands on from line to line is a stack of regions that fit into each other
(`RuleStack.WellFormed`): the outermost one stands for the whole text and never ends, each of the
others was opened by a rule of the table, and the scopes get longer from region to region. This holds
after every line and at every place of it, and so each token has the scope of the grammar as its
outermost one (`wellFormed_tokenizeLine`).
-/

namespace Tincture

/-- Whether the regions that a rule begins end by a pattern. -/
def RuleKind.isRegion : RuleKind → Bool
  | .region .. => true
  | .single .. | .whileRegion .. | .group _ => false

/-- Whether the regions that a rule begins go on from line to line by a condition. -/
def RuleKind.isWhileRegion : RuleKind → Bool
  | .whileRegion .. => true
  | .single .. | .region .. | .group _ => false

/-- A region has what its rule says: a pattern that ends it, a condition to go on, or neither. Its
scopes grow from its name to its content. -/
structure Frame.OfRule (f : Frame) (r : Rule) : Prop where
  number : f.rule = r.id
  stop : (f.stop.isSome = true ∧ f.condition = none) ↔ r.kind.isRegion = true
  condition : (f.condition.isSome = true ∧ f.stop = none) ↔ r.kind.isWhileRegion = true
  scopes : f.nameScopes <+: f.contentScopes

/-- The regions of a stack fit into each other. -/
structure RuleStack.WellFormed (g : Grammar) (s : RuleStack) : Prop where
  /-- The outermost region stands for the whole text. -/
  root : s.getLast? = some g.rootFrame
  /-- Each region is one of a rule in the table. -/
  rules : ∀ f ∈ s, ∃ r, g.rule? f.rule = some r ∧ f.OfRule r
  /-- The scopes of each region extend those of what lies inside the one around it. -/
  scopes : s.IsChain fun inner outer => outer.contentScopes <+: inner.nameScopes

namespace RuleStack.WellFormed

variable {g : Grammar} {s t : RuleStack} {f : Frame}

theorem ne_nil (h : s.WellFormed g) : s ≠ [] := by
  intro hnil
  have hroot := h.root
  rw [hnil] at hroot
  cases hroot

theorem depth_pos (h : s.WellFormed g) : 1 ≤ s.depth :=
  List.length_pos_iff.mpr h.ne_nil

/-- The numbers of the rules are numbers of the table. -/
theorem rule_lt (h : s.WellFormed g) (hf : f ∈ s) : f.rule < g.rules.size := by
  obtain ⟨r, hr, _⟩ := h.rules f hf
  exact (Array.getElem?_eq_some_iff.mp hr).1

/-- What lies around a region that may end fits as well, for only the outermost one has nothing
around it, and it does not end. -/
theorem outer (h : s.WellFormed g) (hsuffix : f :: t <:+ s)
    (hends : f.stop.isSome = true ∨ f.condition.isSome = true) : t.WellFormed g where
  root := by
    obtain ⟨inner, hs⟩ := hsuffix
    have hroot := h.root
    rw [← hs, List.getLast?_append_of_ne_nil _ (List.cons_ne_nil f t)] at hroot
    cases t with
    | nil =>
      obtain rfl : f = g.rootFrame := Option.some.inj hroot
      rcases hends with hstop | hcondition
      · cases hstop
      · cases hcondition
    | cons f' t => exact hroot
  rules := fun f' hf' => h.rules f' (hsuffix.subset (List.mem_cons_of_mem _ hf'))
  scopes := (h.scopes.suffix hsuffix).tail

end RuleStack.WellFormed

namespace Tokenize

variable {g : Grammar} {options : EngineOptions} {spec : GrammarSpec}

theorem prefix_addScopes (scopes : List String) (text : Array Char) (m : Match)
    (name : Option String) : scopes <+: addScopes scopes text m name := by
  cases name with
  | none => exact List.prefix_refl _
  | some name => exact List.prefix_append _ _

/-- A region that a rule opens inside another fits into it. -/
theorem fits_of_opens (hg : Grammar.compile options spec = .ok g) {top f : Frame}
    (hf : Opens g top f) :
    (∃ r, g.rule? f.rule = some r ∧ f.OfRule r) ∧ top.contentScopes <+: f.nameScopes := by
  cases hf with
  | @region _ rule _ _ _ _ _ _ _ hrule hkind =>
    refine ⟨⟨rule, Grammar.rule?_id hg hrule, ?_⟩, prefix_addScopes _ _ _ _⟩
    exact {
      number := rfl
      stop := by simp [openedFrame, hkind, RuleKind.isRegion]
      condition := by simp [openedFrame, hkind, RuleKind.isWhileRegion]
      scopes := prefix_addScopes _ _ _ _ }
  | @whileRegion _ rule _ _ _ _ _ _ hrule hkind =>
    refine ⟨⟨rule, Grammar.rule?_id hg hrule, ?_⟩, prefix_addScopes _ _ _ _⟩
    exact {
      number := rfl
      stop := by simp [openedFrame, hkind, RuleKind.isRegion]
      condition := by simp [openedFrame, hkind, RuleKind.isWhileRegion]
      scopes := prefix_addScopes _ _ _ _ }

/-- **A change of the stack** leaves regions that fit into each other. -/
theorem wellFormed_of_stackChange (hg : Grammar.compile options spec = .ok g) {s t : RuleStack}
    (h : StackChange g s t) (hs : s.WellFormed g) : t.WellFormed g := by
  cases h with
  | stop hstop => exact hs.outer (List.suffix_refl _) (Or.inl hstop)
  | refuse hcondition hsuffix => exact hs.outer hsuffix (Or.inr hcondition)
  | push hf =>
    obtain ⟨hrule, hscopes⟩ := fits_of_opens hg hf
    exact {
      root := by
        rw [List.getLast?_cons_cons]
        exact hs.root
      rules := List.forall_mem_cons.mpr ⟨hrule, hs.rules⟩
      scopes := List.isChain_cons_cons.mpr ⟨hscopes, hs.scopes⟩ }

/-- The region of the whole text is one of the first rule, which opens no other. -/
theorem wellFormed_rootFrame (hg : Grammar.compile options spec = .ok g) :
    RuleStack.WellFormed g [g.rootFrame] where
  root := rfl
  rules := by
    intro f hf
    obtain rfl := List.mem_singleton.mp hf
    obtain ⟨patterns, hroot⟩ := Grammar.rule?_root hg
    refine ⟨_, hroot, ?_⟩
    exact {
      number := rfl
      stop := by simp [Grammar.rootFrame, RuleKind.isRegion]
      condition := by simp [Grammar.rootFrame, RuleKind.isWhileRegion]
      scopes := List.prefix_refl _ }
  scopes := List.isChain_singleton _

theorem wellFormed_start (hg : Grammar.compile options spec = .ok g) {stack : RuleStack}
    (hs : g.Reachable stack) : (g.start stack).WellFormed g :=
  hs.invariant (wellFormed_rootFrame hg) fun _ _ => wellFormed_of_stackChange hg

/-- **All stacks of a line**, from its first state to its last, have regions that fit. -/
theorem Visits.wellFormed (hg : Grammar.compile options spec = .ok g) {line : List Char}
    {stack : RuleStack} (hs : g.Reachable stack) {s : State} {begun : List (Option Span)}
    (h : Visits g line stack s begun) : s.stack.WellFormed g := by
  induction h with
  | first =>
    exact (stackChanges_checkConditions g _ _).invariant
      (fun _ _ => wellFormed_of_stackChange hg) (wellFormed_start hg hs)
  | @next s t _ _ hstep ih =>
    have hchanges := stackChanges_step g (lineText line) s
    rw [hstep] at hchanges
    exact hchanges.invariant (fun _ _ => wellFormed_of_stackChange hg) ih

theorem innerScopes_of {P : List String → Prop} {stack : RuleStack} (h : FramesHave P stack)
    (hne : stack ≠ []) : P stack.innerScopes := by
  obtain ⟨top, rest, rfl⟩ := List.exists_cons_of_ne_nil hne
  exact (h top List.mem_cons_self).2

/-- The scopes of all regions begin with the scope of the grammar. -/
theorem framesHave_start {stack : RuleStack} (hs : g.Reachable stack) :
    FramesHave (fun scopes => scopes.head? = some g.scopeName) (g.start stack) := by
  have hroot : FramesHave (fun scopes => scopes.head? = some g.scopeName) [g.rootFrame] := by
    intro f hf
    obtain rfl := List.mem_singleton.mp hf
    exact ⟨rfl, rfl⟩
  refine hs.invariant hroot fun _ _ => framesHave_of_stackChange fun scopes more h => ?_
  rw [List.head?_append, h]
  rfl

end Tokenize

namespace Grammar

variable {g : Grammar} {options : EngineOptions} {spec : GrammarSpec}

/-- **Lines hand on regions that fit into each other**: after a line, and at every place of it, the
outermost region is that of the whole text, which is never closed; each region is one of a rule in the
table, and has an end or a condition as its rule has; and scopes grow from each region to the ones
inside. All tokens of the line have the scope of the grammar as their outermost one. -/
theorem wellFormed_tokenizeLine (hg : Grammar.compile options spec = .ok g) {stack : RuleStack}
    (hs : g.Reachable stack) (line : List Char) :
    let t := tokenizeLine g line stack
    t.stack.WellFormed g ∧ 1 ≤ t.stack.depth ∧ (∀ f ∈ t.stack, f.rule < g.rules.size) ∧
    (∀ s begun, Tokenize.Visits g line stack s begun → s.stack.WellFormed g) ∧
    ∀ a ∈ t.tokens, a.scopes.head? = some g.scopeName := by
  intro t
  have hvisits : ∀ s begun, Tokenize.Visits g line stack s begun → s.stack.WellFormed g :=
    fun _ _ h => h.wellFormed hg hs
  have ht : t.stack.WellFormed g := by
    have hchanges := Tokenize.stackChanges_tokenizeLine g line stack
    exact hchanges.invariant (fun _ _ => Tokenize.wellFormed_of_stackChange hg)
      (Tokenize.wellFormed_start hg hs)
  refine ⟨ht, ht.depth_pos, fun _ => ht.rule_lt, hvisits, ?_⟩
  have hlast := Tokenize.filled_lastState
    (fun scopes more h => by rw [List.head?_append, h]; rfl) line (Tokenize.framesHave_start hs)
  exact (hlast.paint.finish (Tokenize.innerScopes_of hlast.frames ht.ne_nil)).2

/-- A file with a region that goes on while lines begin with a `>`, and one inside it for text between
as many backquotes as it began with. -/
def quoteSpec : GrammarSpec where
  scopeName := "source.quote"
  patterns := [{
    name := some "quote", beginPattern := some "^>", whilePattern := some "^>"
    patterns := some [{
      name := some "raw", contentName := some "inside"
      beginPattern := some "(`+)", endPattern := some "\\1" }] }]

/-- What is made of it. -/
def quote : Grammar where
  scopeName := "source.quote"
  name := none
  fileTypes := []
  rules := #[{ id := 0, kind := .group [1] },
    { id := 1, name := some "quote", kind := .whileRegion (Pattern.compile? {} "^>") {}
        (.fixed "^>" (Pattern.compile? {} "^>")) {} [2] },
    { id := 2, name := some "raw", contentName := some "inside", kind := .region
        (Pattern.compile? {} "(`+)") {} (.backReferenced "\\1") {} false [] }]
  scanners := #[some ⟨⟨[Pattern.compile? {} "^>"]⟩, [1]⟩,
    some ⟨⟨[Pattern.compile? {} "(`+)"]⟩, [2]⟩, some ⟨⟨[]⟩, []⟩]
  options := {}

theorem compile_quoteSpec : Grammar.compile {} quoteSpec = .ok quote := by
  rw [Compile.compile_eq_compute]
  rfl

/-- Backquotes inside a quotation open three regions that fit, and a second line goes on with them. -/
theorem wellFormed_tokenizeLine_quote :
    let first := (tokenizeLine quote "> a `` b".toList RuleStack.initial).stack
    let t := tokenizeLine quote "> c ` d".toList first
    t.stack.depth = 3 ∧ t.stack.WellFormed quote ∧
      ∀ a ∈ t.tokens, a.scopes.head? = some "source.quote" := by
  intro first t
  have hfirst : quote.Reachable first := .line _ .initial
  have hdepth : t.stack.depth = 3 := by decide +kernel
  obtain ⟨hstack, _, _, _, htokens⟩ :=
    wellFormed_tokenizeLine compile_quoteSpec hfirst "> c ` d".toList
  exact ⟨hdepth, hstack, htokens⟩

end Grammar

end Tincture
