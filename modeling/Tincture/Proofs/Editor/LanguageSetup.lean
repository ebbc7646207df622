import Tincture.Editor.Highlighter
import Tincture.Proofs.Data.FilledTables
import Tincture.Proofs.Grammar.AskedOnce
import Tincture.Proofs.Grammar.ClosedTable

/-!
# Setting up languages

To set up a language takes several steps: it is registered, it gets its configuration, a fresh registry
loads its grammar, and what comes of that decides on the provider that is installed. All of it comes to
one value for the language in the editor and one in the highlighter (`setupLanguage_eq`), which depend on
the language, the files and the answer of the engine. The engine keeps its answer, so that languages that
are set up one after the other do not see each other (`setupLanguages_eq`).

That a call gives something back is not said here: the compiler may go on for ever or break off
(`GrammarError.isBreakdown`), and then it gives nothing. Of all other calls it is said what they leave
behind and what they give back (`languages_set_up`).
-/

namespace Tincture

/-- What is installed for a language. -/
def Editor.installed? (e : Editor) (id : String) : Option LanguageProvider :=
  (e.languages.get? id).bind (·.provider)

/-- The editor with other languages. -/
def Editor.withLanguages (e : Editor) (languages : Table EditorLanguage) : Editor :=
  { e with languages }

/-- Two editors know the same of each language and have the same themes. -/
structure Editor.Same (e e' : Editor) : Prop where
  languages : e.languages.Same e'.languages
  themes : e.themes = e'.themes
  active : e.active = e'.active
  shown : e.shown = e'.shown

namespace Highlighter

section Outcome

variable (h : Highlighter) (files : FileTree) (spec : LanguageSpec)

/-! ### What a call leads to -/

/-- What the engine gives if it is asked with these files. -/
def engineAnswer : Except EngineError EngineOptions :=
  (h.engine.start (h.source.options files)).2

/-- What comes of loading the grammar of a language. -/
def outcome : LoadOutcome :=
  match h.engineAnswer files with
  | .ok options => GrammarRegistry.outcomeOf options (spec.grammar.fetch files)
  | .error e => .error (.engine e)

/-- The grammar of a language once it was loaded; if the engine fails, nothing is kept of it. -/
def loaded : LanguageGrammar where
  scopeName := spec.scopeName
  location := spec.grammar
  registry := match h.engineAnswer files with
    | .ok _ => ({} : GrammarRegistry).keep spec.scopeName (h.outcome files spec)
    | .error _ => {}

/-- The provider that an outcome leads to. -/
def providerOf : LoadOutcome → LanguageProvider
  | .ok (some g) => .grammar g
  | .ok none | .error _ => .plain

/-- What a call gives back. -/
def resultOf : LoadOutcome → Except SetupError LanguageRegistration
  | .ok (some _) => .ok ⟨spec.id, spec.scopeName, spec.configuration, .textMate⟩
  | .ok none => .ok ⟨spec.id, spec.scopeName, spec.configuration, .plainText⟩
  | .error e => .error (.ofGrammarError e)

/-- What the editor knows of a language that was set up. -/
def language : EditorLanguage where
  configuration := some spec.configuration
  provider := some (providerOf (h.outcome files spec))

/-- The highlighter with these grammars, when its engine was asked. -/
def ready (grammars : Table LanguageGrammar) : Highlighter :=
  { h with engine := (h.engine.start (h.source.options files)).1, grammars }

end Outcome

variable {h : Highlighter} {e : Editor} {files : FileTree} {spec : LanguageSpec}

/-- An engine that was asked gives its answer again. -/
theorem start_start (engine : Engine) (source : Except EngineError EngineOptions) :
    (engine.start source).1.start source = engine.start source := by
  rcases GrammarRegistry.start_cases engine source with ⟨answer, hanswer, hstart⟩ | ⟨_, hstart⟩
  · rw [hstart]
    exact hstart
  · rw [hstart]
    rfl

theorem ready_ready (grammars grammars' : Table LanguageGrammar) :
    (h.ready files grammars).ready files grammars' = h.ready files grammars' :=
  congrArg (fun started => { h with engine := started.1, grammars := grammars' })
    (start_start h.engine (h.source.options files))

theorem engineAnswer_ready (h : Highlighter) (files : FileTree) (grammars : Table LanguageGrammar) :
    (h.ready files grammars).engineAnswer files = h.engineAnswer files :=
  congrArg Prod.snd (start_start h.engine (h.source.options files))

/-- What comes of a language depends on the engine's answer only. -/
theorem outcome_congr {h' : Highlighter} (hanswer : h'.engineAnswer files = h.engineAnswer files) :
    h'.outcome files spec = h.outcome files spec := by
  rw [outcome, outcome, hanswer]

theorem loaded_congr {h' : Highlighter} (hanswer : h'.engineAnswer files = h.engineAnswer files) :
    h'.loaded files spec = h.loaded files spec := by
  rw [loaded, loaded, hanswer, outcome_congr hanswer]

theorem language_congr {h' : Highlighter} (hanswer : h'.engineAnswer files = h.engineAnswer files) :
    h'.language files spec = h.language files spec := by
  rw [language, language, outcome_congr hanswer]

/-! ### Loading the grammar -/

theorem find_own (l : LanguageGrammar) (hscope : l.scopeName = spec.scopeName)
    (hlocation : l.location = spec.grammar) :
    l.find files spec.scopeName = spec.grammar.fetch files := by
  rw [LanguageGrammar.find, hscope, if_pos rfl, hlocation]

/-- A fresh registry loads the grammar. -/
theorem loadGrammar_fresh :
    h.loadGrammar files spec.id ⟨spec.scopeName, spec.grammar, {}⟩ spec.scopeName =
      (h.ready files (h.grammars.set spec.id (h.loaded files spec)), h.outcome files spec) := by
  unfold loadGrammar ready loaded outcome engineAnswer
  rw [find_own ⟨spec.scopeName, spec.grammar, {}⟩ rfl rfl]
  unfold GrammarRegistry.load
  obtain ⟨engine, answer⟩ := h.engine.start (h.source.options files)
  cases answer with
  | error cause => rfl
  | ok options => rfl

/-- The registry that has loaded the grammar gives the same again, and nothing changes. -/
theorem loadGrammar_loaded (spec : LanguageSpec) (hready : h.ready files h.grammars = h)
    (hentry : h.grammars.get? spec.id = some (h.loaded files spec)) :
    h.loadGrammar files spec.id (h.loaded files spec) spec.scopeName =
      (h, h.outcome files spec) := by
  have hstart : h.engine.start (h.source.options files) = (h.engine, h.engineAnswer files) :=
    Prod.ext (congrArg Highlighter.engine hready) rfl
  have hload : (h.loaded files spec).registry.load h.engine (h.source.options files) spec.scopeName
      (spec.grammar.fetch files) =
        ⟨h.engine, (h.loaded files spec).registry, false, h.outcome files spec⟩ := by
    unfold GrammarRegistry.load loaded outcome
    rw [hstart]
    cases h.engineAnswer files with
    | error cause => rfl
    | ok options =>
      dsimp only
      rw [GrammarRegistry.outcome?_keep, if_pos rfl]
  unfold loadGrammar
  rw [find_own (h.loaded files spec) rfl rfl, hload]
  show ({ h with grammars := h.grammars.set spec.id (h.loaded files spec) }, _) = _
  rw [Table.set_of_get? hentry]

/-! ### Setting up a language -/

/-- A language that was registered is there, and its entry may be replaced as if it had not been. -/
theorem registerLanguage_spec (e : Editor) (id : String) :
    ∃ l languages, languages.get? id = some l ∧
      (∀ l', languages.set id l' = e.languages.set id l') ∧
      e.registerLanguage id = e.withLanguages languages := by
  unfold Editor.registerLanguage Editor.isRegistered
  by_cases hcontains : e.languages.contains id = true
  · rw [if_pos hcontains]
    obtain ⟨l, hl⟩ := Option.isSome_iff_exists.mp hcontains
    exact ⟨l, e.languages, hl, fun _ => rfl, rfl⟩
  · rw [if_neg hcontains]
    refine ⟨{}, e.languages.set id {}, ?_, fun l' => Table.set_set _ _ _ _, rfl⟩
    rw [Table.get?_set, if_pos rfl]

/-- An entry that is there is changed. -/
theorem modifyLanguage_of_get? {id : String} {l : EditorLanguage}
    (hl : e.languages.get? id = some l) (f : EditorLanguage → EditorLanguage) :
    e.modifyLanguage id f = .ok (e.withLanguages (e.languages.set id (f l))) := by
  rw [Editor.modifyLanguage, hl]
  rfl

/-- The provider that an outcome leads to is installed for a language that is there. -/
theorem install_of_get? {l : EditorLanguage} (hl : e.languages.get? spec.id = some l)
    (outcome : LoadOutcome) :
    install e spec outcome = (e.withLanguages (e.languages.set spec.id
      { l with provider := some (providerOf outcome) }), resultOf spec outcome) := by
  have hset : ∀ p, e.setProvider spec.id p =
      .ok (e.withLanguages (e.languages.set spec.id { l with provider := some p })) := fun p =>
    modifyLanguage_of_get? hl _
  unfold install
  rcases outcome with cause | _ | g
  · simp only [hset]
    rfl
  · simp only [hset]
    rfl
  · simp only [hset]
    rfl

/-- **Setting up a language** gives it one value in the editor and one in the highlighter. -/
theorem setupLanguage_eq (h : Highlighter) (e : Editor) (files : FileTree) (spec : LanguageSpec) :
    h.setupLanguage e files spec =
      (h.ready files (h.grammars.set spec.id (h.loaded files spec)),
        e.withLanguages (e.languages.set spec.id (h.language files spec)),
        resultOf spec (h.outcome files spec)) := by
  obtain ⟨l, languages, hl, hreplace, hregister⟩ := registerLanguage_spec e spec.id
  have hconfigure : (e.withLanguages languages).setConfiguration spec.id spec.configuration =
      .ok (e.withLanguages (e.languages.set spec.id
        { l with configuration := some spec.configuration })) := by
    rw [← hreplace]
    exact modifyLanguage_of_get? hl _
  have hl' : (e.languages.set spec.id { l with configuration := some spec.configuration }).get?
      spec.id = some { l with configuration := some spec.configuration } := by
    rw [Table.get?_set, if_pos rfl]
  unfold setupLanguage
  dsimp only
  rw [hregister, hconfigure]
  dsimp only
  rw [loadGrammar_fresh]
  dsimp only
  rw [install_of_get? hl']
  show (_, e.withLanguages ((e.languages.set _ _).set _ _), _) = _
  rw [Table.set_set]
  rfl

/-- A call that is made once more gives the same and changes nothing. -/
theorem setupLanguage_again {h' : Highlighter} {e' : Editor}
    {result : Except SetupError LanguageRegistration}
    (hcall : h.setupLanguage e files spec = (h', e', result)) :
    h'.setupLanguage e' files spec = (h', e', result) := by
  rw [setupLanguage_eq] at hcall
  obtain ⟨rfl, hrest⟩ := Prod.mk.inj hcall
  obtain ⟨rfl, rfl⟩ := Prod.mk.inj hrest
  have hanswer := engineAnswer_ready h files
    (h.grammars.set spec.id (h.loaded files spec))
  rw [setupLanguage_eq, loaded_congr hanswer, language_congr hanswer, outcome_congr hanswer,
    ready_ready]
  show (h.ready files ((h.grammars.set _ _).set _ _),
    e.withLanguages ((e.languages.set _ _).set _ _), _) = _
  rw [Table.set_set, Table.set_set]

/-- **Languages that are set up one after the other** get what each of them would get by itself. -/
theorem setupLanguages_eq (h : Highlighter) (e : Editor) (files : FileTree)
    (specs : List LanguageSpec) (hspecs : specs ≠ []) :
    h.setupLanguages e files specs =
      (h.ready files (h.grammars.setAll (specs.map fun spec => (spec.id, h.loaded files spec))),
        e.withLanguages
          (e.languages.setAll (specs.map fun spec => (spec.id, h.language files spec))),
        specs.map fun spec => resultOf spec (h.outcome files spec)) := by
  induction specs generalizing h e with
  | nil => exact absurd rfl hspecs
  | cons spec rest ih =>
    have hanswer := engineAnswer_ready h files
      (h.grammars.set spec.id (h.loaded files spec))
    rw [setupLanguages, setupLanguage_eq]
    dsimp only
    -- the induction stops at the last language: with none the engine would not be asked
    cases rest with
    | nil => rfl
    | cons next rest =>
      rw [ih _ _ (List.cons_ne_nil next rest)]
      simp only [loaded_congr hanswer, language_congr hanswer, outcome_congr hanswer, ready_ready]
      rfl

/-! ### What is given back -/

/-- What a call gives back for what its registry gives: a registration that names the provider, or what is
wrong with the engine, with the text of the grammar, or with one of its rules. -/
inductive Reports (spec : LanguageSpec) :
    LoadOutcome → Except SetupError LanguageRegistration → Prop
  | textMate (g : Grammar) : Reports spec (.ok (some g))
      (.ok ⟨spec.id, spec.scopeName, spec.configuration, .textMate⟩)
  | notFound : Reports spec (.ok none)
      (.ok ⟨spec.id, spec.scopeName, spec.configuration, .plainText⟩)
  | engine (cause : EngineError) :
      Reports spec (.error (.engine cause)) (.error (.engine cause))
  | malformed (path : String) :
      Reports spec (.error (.malformed path)) (.error (.grammar (.malformed path)))
  | noScopeName (path : String) :
      Reports spec (.error (.noScopeName path)) (.error (.grammar (.noScopeName path)))
  | noEnd (scope begins : String) : Reports spec (.error (.compile scope (.noEnd begins)))
      (.error (.grammar (.compile scope (.noEnd begins))))

/-- A grammar that was found is not without a rule that has a number. -/
theorem load_ne_undefined (source : GrammarSource) (options : EngineOptions) (scope : String)
    (id : RuleId) : source.load options ≠ .error (.compile scope (.undefined id)) := by
  intro hload
  unfold GrammarSource.load GrammarSource.read at hload
  cases hread : GrammarSpec.read source.path source.text.toList with
  | error cause =>
    rw [hread] at hload
    cases cause <;> cases hload
  | ok g =>
    rw [hread] at hload
    simp only [bind, Except.bind] at hload
    rcases Compile.compile_cases options g with ⟨cause, hcompile, hcause⟩ | ⟨_, _, hcompile, _⟩
    · rw [hcompile] at hload
      obtain ⟨_, rfl⟩ := GrammarError.compile.inj (Except.error.inj hload)
      rcases hcause with hcause | ⟨_, _, _, hfault⟩
      · cases hcause
      · cases hfault
    · rw [hcompile] at hload
      cases hload

/-- What comes of a call that gives something back is reported. -/
theorem reports_resultOf
    (hback : ∀ cause, h.outcome files spec = .error cause → cause.isBreakdown = false) :
    Reports spec (h.outcome files spec) (resultOf spec (h.outcome files spec)) := by
  have hundefined : ∀ scope id, h.outcome files spec ≠ .error (.compile scope (.undefined id)) := by
    intro scope id houtcome
    unfold outcome GrammarRegistry.outcomeOf at houtcome
    split at houtcome
    · split at houtcome
      · cases houtcome
      · rename_i source _
        cases hload : source.load _ with
        | ok g =>
          rw [hload] at houtcome
          cases houtcome
        | error cause =>
          rw [hload] at houtcome
          obtain rfl := Except.error.inj houtcome
          exact load_ne_undefined _ _ _ _ hload
    · cases houtcome
  rcases houtcome : h.outcome files spec with cause | _ | g
  · have hcause := hback cause houtcome
    cases cause with
    | engine cause => exact .engine cause
    | malformed path => exact .malformed path
    | noScopeName path => exact .noScopeName path
    | compile scope cause =>
      cases cause with
      | noEnd begins => exact .noEnd scope begins
      | undefined id => exact absurd houtcome (hundefined scope id)
      | endlessInclude => cases hcause
      | captureOverflow index => cases hcause
  · exact .notFound
  · exact .textMate g

/-- The provider is that of a grammar just if this is what is given back. -/
theorem resultOf_eq_textMate_iff (outcome : LoadOutcome) :
    resultOf spec outcome = .ok ⟨spec.id, spec.scopeName, spec.configuration, .textMate⟩ ↔
      ∃ g, outcome = .ok (some g) ∧ providerOf outcome = .grammar g := by
  constructor
  · intro hresult
    rcases outcome with cause | _ | g
    · cases hresult
    · cases hresult
    · exact ⟨g, rfl, rfl⟩
  · rintro ⟨g, rfl, _⟩
    rfl

theorem providerOf_eq_plain {outcome : LoadOutcome}
    (hresult : resultOf spec outcome ≠
      .ok ⟨spec.id, spec.scopeName, spec.configuration, .textMate⟩) :
    providerOf outcome = .plain := by
  rcases outcome with cause | _ | g
  · rfl
  · rfl
  · exact absurd rfl hresult

/-- The editor never refuses anything. -/
theorem Reports.ne_editor {outcome : LoadOutcome} {result : Except SetupError LanguageRegistration}
    (h : Reports spec outcome result) (cause : EditorError) : result ≠ .error (.editor cause) := by
  rintro rfl
  cases h

/-! ### What is left behind -/

/-- What a call leaves behind and gives back: the language is registered, and has the configuration, the
registry and the provider of this call. All else is as it was before. -/
structure SetUp (files : FileTree) (spec : LanguageSpec) (h : Highlighter) (e : Editor)
    (h' : Highlighter) (e' : Editor) (result : Except SetupError LanguageRegistration) : Prop where
  registered : e'.isRegistered spec.id = true
  configuration : e'.configuration? spec.id = some spec.configuration
  /-- The registry is one for the scope and the place of this call, and has kept nothing of another
  scope. What it gives for the scope from now on decides on the provider and on what is given back. -/
  registry : ∃ l outcome, h'.grammars.get? spec.id = some l ∧ l.scopeName = spec.scopeName ∧
    l.location = spec.grammar ∧
    (∀ scope, l.registry.isCached scope = true → scope = spec.scopeName) ∧
    h'.loadGrammar files spec.id l spec.scopeName = (h', outcome) ∧
    Reports spec outcome result ∧
    (result = .ok ⟨spec.id, spec.scopeName, spec.configuration, .textMate⟩ ↔
      ∃ g, outcome = .ok (some g) ∧ e'.installed? spec.id = some (.grammar g)) ∧
    (result ≠ .ok ⟨spec.id, spec.scopeName, spec.configuration, .textMate⟩ →
      e'.installed? spec.id = some .plain)
  not_editor : ∀ cause, result ≠ .error (.editor cause)
  others : ∀ other, other ≠ spec.id → e'.languages.get? other = e.languages.get? other ∧
    h'.grammars.get? other = h.grammars.get? other
  themes : e'.themes = e.themes ∧ e'.active = e.active ∧ e'.shown = e.shown

/-- Nothing is kept of a scope that was not loaded. -/
theorem eq_of_isCached_loaded {scope : String}
    (hcached : (h.loaded files spec).registry.isCached scope = true) : scope = spec.scopeName := by
  unfold loaded GrammarRegistry.isCached at hcached
  dsimp only at hcached
  split at hcached
  · rw [GrammarRegistry.outcome?_keep] at hcached
    split at hcached
    · assumption
    · cases hcached
  · cases hcached

/-- **A call** that gives something back leaves the language set up, whatever was there before. -/
theorem setUp_setupLanguage
    (hback : ∀ cause, h.outcome files spec = .error cause → cause.isBreakdown = false)
    {h' : Highlighter} {e' : Editor} {result : Except SetupError LanguageRegistration}
    (hcall : h.setupLanguage e files spec = (h', e', result)) :
    SetUp files spec h e h' e' result := by
  rw [setupLanguage_eq] at hcall
  obtain ⟨rfl, hrest⟩ := Prod.mk.inj hcall
  obtain ⟨rfl, rfl⟩ := Prod.mk.inj hrest
  have hlanguage : (e.languages.set spec.id (h.language files spec)).get? spec.id =
      some (h.language files spec) := by
    rw [Table.get?_set, if_pos rfl]
  have hgrammar : (h.grammars.set spec.id (h.loaded files spec)).get? spec.id =
      some (h.loaded files spec) := by
    rw [Table.get?_set, if_pos rfl]
  have hinstalled : (e.withLanguages (e.languages.set spec.id (h.language files spec))).installed?
      spec.id = some (providerOf (h.outcome files spec)) := by
    show ((e.languages.set spec.id (h.language files spec)).get? spec.id).bind _ = _
    rw [hlanguage]
    rfl
  have hreports := reports_resultOf hback
  -- the registry is asked again, by a highlighter whose engine was started in this call
  have hanswer := engineAnswer_ready h files
    (h.grammars.set spec.id (h.loaded files spec))
  have hready : (h.ready files (h.grammars.set spec.id (h.loaded files spec))).ready files
      (h.grammars.set spec.id (h.loaded files spec)) =
        h.ready files (h.grammars.set spec.id (h.loaded files spec)) := ready_ready _ _
  have hagain := loadGrammar_loaded spec hready (by rw [loaded_congr hanswer]; exact hgrammar)
  rw [loaded_congr hanswer, outcome_congr hanswer] at hagain
  constructor
  · show ((e.languages.set _ _).get? spec.id).isSome = true
    rw [hlanguage]
    rfl
  · show ((e.languages.set _ _).get? spec.id).bind _ = _
    rw [hlanguage]
    rfl
  · refine ⟨h.loaded files spec, h.outcome files spec, hgrammar, rfl, rfl,
      fun _ => eq_of_isCached_loaded, ?_, hreports, ?_, ?_⟩
    · exact hagain
    · rw [hinstalled, resultOf_eq_textMate_iff]
      simp only [Option.some.injEq]
    · intro hresult
      rw [hinstalled, providerOf_eq_plain hresult]
  · exact hreports.ne_editor
  · intro other hother
    constructor
    · show (e.languages.set _ _).get? other = _
      rw [Table.get?_set, if_neg hother]
    · show (h.grammars.set _ _).get? other = _
      rw [Table.get?_set, if_neg hother]
  · exact ⟨rfl, rfl, rfl⟩

/-- The highlighter and the editor after calls depend on the engine's first answer only. -/
theorem engineAnswer_setupLanguages (specs : List LanguageSpec) {h' : Highlighter} {e' : Editor}
    {results : List (Except SetupError LanguageRegistration)}
    (hcalls : h.setupLanguages e files specs = (h', e', results)) :
    h'.engineAnswer files = h.engineAnswer files := by
  cases specs with
  | nil =>
    obtain ⟨rfl, _⟩ := Prod.mk.inj hcalls
    rfl
  | cons spec rest =>
    rw [setupLanguages_eq _ _ _ _ (List.cons_ne_nil spec rest)] at hcalls
    obtain ⟨rfl, _⟩ := Prod.mk.inj hcalls
    exact engineAnswer_ready _ _ _

/-- Languages with different names may be set up in any order. -/
theorem same_setupLanguages (h : Highlighter) (e : Editor) (files : FileTree)
    {specs specs' : List LanguageSpec} (hperm : specs.Perm specs')
    (hnodup : (specs.map (·.id)).Nodup) :
    (h.setupLanguages e files specs).2.1.Same (h.setupLanguages e files specs').2.1 ∧
    (h.setupLanguages e files specs).1.grammars.Same (h.setupLanguages e files specs').1.grammars ∧
    (h.setupLanguages e files specs).1.engine = (h.setupLanguages e files specs').1.engine := by
  by_cases hspecs : specs = []
  · obtain rfl := hspecs
    obtain rfl := List.nil_perm.mp hperm
    exact ⟨⟨.refl _, rfl, rfl, rfl⟩, .refl _, rfl⟩
  · have hspecs' : specs' ≠ [] := fun hnil => hspecs (List.perm_nil.mp (hnil ▸ hperm))
    have hsame : ∀ {α : Type} (t : Table α) (f : LanguageSpec → α),
        (t.setAll (specs.map fun spec => (spec.id, f spec))).Same
          (t.setAll (specs'.map fun spec => (spec.id, f spec))) := by
      intro α t f
      refine Table.same_setAll (hperm.map _) ?_ t
      rw [List.map_map]
      exact hnodup
    rw [setupLanguages_eq _ _ _ _ hspecs, setupLanguages_eq _ _ _ _ hspecs']
    exact ⟨⟨hsame _ _, rfl, rfl, rfl⟩, hsame _ _, rfl⟩

/-- **Languages are set up** whatever was set up before and whatever is wrong with their grammars. Of
calls one after the other, all of which give something back,

* each leaves its language registered, with the configuration, the registry and the provider of this call
  (`SetUp`), and changes nothing else;
* each gives the same if it is made once more, which changes nothing;
* each order leads to the same editor, if the languages have different names. -/
theorem languages_set_up (h : Highlighter) (e : Editor) (files : FileTree)
    (specs : List LanguageSpec)
    (hback : ∀ spec ∈ specs, ∀ cause, h.outcome files spec = .error cause →
      cause.isBreakdown = false) :
    (∀ before spec later, specs = before ++ spec :: later →
      ∀ h₁ e₁ results, h.setupLanguages e files before = (h₁, e₁, results) →
      ∀ h₂ e₂ result, h₁.setupLanguage e₁ files spec = (h₂, e₂, result) →
        SetUp files spec h₁ e₁ h₂ e₂ result ∧
        h₂.setupLanguage e₂ files spec = (h₂, e₂, result)) ∧
    ∀ specs' : List LanguageSpec, specs.Perm specs' → (specs.map (·.id)).Nodup →
      (h.setupLanguages e files specs).2.1.Same (h.setupLanguages e files specs').2.1 ∧
      (h.setupLanguages e files specs).1.grammars.Same
        (h.setupLanguages e files specs').1.grammars ∧
      (h.setupLanguages e files specs).1.engine = (h.setupLanguages e files specs').1.engine := by
  constructor
  · rintro before spec later rfl h₁ e₁ results hcalls h₂ e₂ result hcall
    refine ⟨setUp_setupLanguage ?_ hcall, setupLanguage_again hcall⟩
    rw [outcome_congr (engineAnswer_setupLanguages before hcalls)]
    exact hback spec (List.mem_append_right before List.mem_cons_self)
  · intro specs' hperm hnodup
    exact same_setupLanguages h e files hperm hnodup

/-! ### Three grammars -/

/-- A grammar without rules. -/
def bareGrammar : GrammarSource :=
  ⟨"a.json", "\x7b\"scopeName\":\"source.a\"\x7d"⟩

/-- A text that breaks off. -/
def cutOffGrammar : GrammarSource :=
  ⟨"b.json", "\x7b"⟩

/-- A grammar with a rule that names the group of the largest number. -/
def overflowingGrammar : GrammarSource :=
  ⟨"c.json", "\x7b\"scopeName\":\"source.c\",\"patterns\":[\x7b\"match\":\"a\",\"name\":\"letter\"," ++
    "\"captures\":\x7b\"18446744073709551615\":\x7b\"name\":\"x\"\x7d\x7d\x7d]\x7d"⟩

theorem load_bareGrammar : ∃ g, bareGrammar.load {} = .ok g := by
  have hformat : GrammarFormat.detect bareGrammar.path bareGrammar.text.toList = .json := rfl
  have hdata : Data.Json.read? bareGrammar.text.toList =
      some (.object [(some "scopeName", .string "source.a")]) := by cbv
  have hspec : GrammarSpec.ofData? Data.Json.maxDepth
      (.object [(some "scopeName", .string "source.a")]) =
        some { scopeName := "source.a" } := by with_unfolding_all rfl
  obtain ⟨g, hcompile⟩ : ∃ g, Grammar.compile {} { scopeName := "source.a" } = .ok g := by
    rw [Compile.compile_eq_compute]
    exact ⟨_, rfl⟩
  have hread : bareGrammar.read = .ok { scopeName := "source.a" } := by
    simp only [GrammarSource.read, GrammarSpec.read, hformat, hdata, Option.bind_some, hspec]
    rfl
  simp only [GrammarSource.load, hread, bind, Except.bind, hcompile]
  exact ⟨g, rfl⟩

theorem load_cutOffGrammar : cutOffGrammar.load {} = .error (.malformed "b.json") := by
  have hformat : GrammarFormat.detect cutOffGrammar.path cutOffGrammar.text.toList = .json := rfl
  have hdata : Data.Json.read? cutOffGrammar.text.toList = none := rfl
  simp only [GrammarSource.load, GrammarSource.read, GrammarSpec.read, hformat, hdata,
    Option.bind_none]
  rfl

theorem load_overflowingGrammar : overflowingGrammar.load {} =
    .error (.compile "source.c" (.captureOverflow Text.maxWord)) := by
  have hformat : GrammarFormat.detect overflowingGrammar.path overflowingGrammar.text.toList =
      .json := rfl
  have hdata : Data.Json.read? overflowingGrammar.text.toList =
      some (.object [(some "scopeName", .string "source.c"), (some "patterns", .array [.object
        [(some "match", .string "a"), (some "name", .string "letter"), (some "captures", .object
          [(some "18446744073709551615", .object [(some "name", .string "x")])])]])]) := by cbv
  have hspec : GrammarSpec.ofData? Data.Json.maxDepth
      (.object [(some "scopeName", .string "source.c"), (some "patterns", .array [.object
        [(some "match", .string "a"), (some "name", .string "letter"), (some "captures", .object
          [(some "18446744073709551615", .object [(some "name", .string "x")])])]])]) =
      some Compile.namingLast := by with_unfolding_all rfl
  have hcompile : Grammar.compile {} Compile.namingLast =
      .error (.captureOverflow Text.maxWord) := by
    rw [Compile.compile_eq_compute]
    rfl
  have hread : overflowingGrammar.read = .ok Compile.namingLast := by
    simp only [GrammarSource.read, GrammarSpec.read, hformat, hdata, Option.bind_some, hspec]
    rfl
  simp only [GrammarSource.load, hread, bind, Except.bind, hcompile]
  rfl

/-- A highlighter whose engine was asked for its usual options. -/
def running : Highlighter where
  engine := { answer := some (.ok {}), attempts := 1 }

/-- Languages with a grammar, with a text that is none, and without. -/
def mixedSpecs : List LanguageSpec :=
  [⟨"a", "source.a", [], .embedded bareGrammar, {}⟩,
    ⟨"b", "source.b", [], .embedded cutOffGrammar, {}⟩,
    ⟨"c", "source.c", [], .path "c.json", {}⟩]

theorem languages_set_up_mixed :
    (∀ spec ∈ mixedSpecs, ∀ cause, running.outcome {} spec = .error cause →
      cause.isBreakdown = false) ∧
    (running.setupLanguages {} {} mixedSpecs).2.1.Same
      (running.setupLanguages {} {} mixedSpecs.reverse).2.1 := by
  have hanswer : running.engineAnswer {} = .ok {} := rfl
  have hback : ∀ spec ∈ mixedSpecs, ∀ cause, running.outcome {} spec = .error cause →
      cause.isBreakdown = false := by
    intro spec hspec cause houtcome
    simp only [outcome, hanswer] at houtcome
    simp only [mixedSpecs, List.mem_cons, List.not_mem_nil, or_false] at hspec
    obtain rfl | rfl | rfl := hspec
    · have hload : (bareGrammar.load {}).map some = .error cause := houtcome
      obtain ⟨g, hgrammar⟩ := load_bareGrammar
      rw [hgrammar] at hload
      cases hload
    · have hload : (cutOffGrammar.load {}).map some = .error cause := houtcome
      rw [load_cutOffGrammar] at hload
      cases hload
      rfl
    · have hfetch : (GrammarLocation.path "c.json").fetch {} = none := by with_unfolding_all rfl
      simp only [hfetch] at houtcome
      cases houtcome
  exact ⟨hback, ((languages_set_up running {} {} mixedSpecs hback).2 mixedSpecs.reverse
    (List.reverse_perm _).symm (by decide)).1⟩

/-- **Not all calls** leave the language set up: at this grammar the compiler breaks off. -/
theorem not_always_set_up : ¬ ∀ (h : Highlighter) (e : Editor) (files : FileTree)
    (spec : LanguageSpec) (h' : Highlighter) (e' : Editor)
    (result : Except SetupError LanguageRegistration),
    h.setupLanguage e files spec = (h', e', result) → SetUp files spec h e h' e' result := by
  intro hall
  have hanswer : running.engineAnswer {} = .ok {} := rfl
  have houtcome : running.outcome {}
      ⟨"c", "source.c", [], .embedded overflowingGrammar, {}⟩ =
        .error (.compile "source.c" (.captureOverflow Text.maxWord)) := by
    simp only [outcome, hanswer]
    show (overflowingGrammar.load {}).map some = _
    rw [load_overflowingGrammar]
    rfl
  obtain ⟨_, _, _, _, _, _, _, hreports, _⟩ :=
    (hall running {} {} ⟨"c", "source.c", [], .embedded overflowingGrammar, {}⟩ _ _ _
      (setupLanguage_eq _ _ _ _)).registry
  rw [houtcome] at hreports
  cases hreports

end Highlighter

end Tincture
