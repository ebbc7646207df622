import Tincture.Editor.Highlighter

/-!
# The active theme

An editor keeps the name of its active theme, the themes that are defined, and the theme that is shown,
by which its providers colour. They are changed by different calls: defining a theme may show it,
activating one changes the name, and activating one that is not defined may do both for another theme.
What each call does is said by an equation or by cases (`theme?_defineTheme`, `setTheme_cases`,
`registerTheme_cases`, `activation`).

An editor is `Settled` if the active theme is a defined one and is the one that is shown. Each call
keeps this (`settled_after`), so that it holds after any calls, and what a call that fails leaves behind
can be said exactly (`activeTheme_defined`).
-/

namespace Tincture

/-- A call that has to do with the themes of an editor. Each load has its own highlighter and files. -/
inductive ThemeCall where
  | define (name : String) (theme : Theme)
  | set (name : String)
  | register (h : Highlighter) (files : FileTree) (entry : ThemeEntry)
  | registerAll (h : Highlighter) (files : FileTree) (entries : List ThemeEntry)
  | activate (name : String)

namespace Editor

/-- The editor after a call. -/
def after (e : Editor) : ThemeCall → Editor
  | .define name theme => e.defineTheme name theme
  | .set name => (e.setTheme name).toOption.getD e
  | .register h files entry => (h.registerTheme e files entry).1
  | .registerAll h files entries => (h.registerThemes e files entries).1
  | .activate name => (Highlighter.activateTheme e name).1

/-- The editor after calls one after the other. -/
def afterAll (calls : List ThemeCall) : Editor :=
  calls.foldl after {}

/-- The active theme is defined, and it is the one that is shown. -/
def Settled (e : Editor) : Prop :=
  ∀ name, e.active = some name → e.theme? name = some e.shown

/-! ### What the calls do -/

section Calls

variable (e : Editor) (name : String)

@[simp] theorem active_defineTheme (theme : Theme) : (e.defineTheme name theme).active = e.active :=
  rfl

/-- Only the theme with the name is defined anew. -/
theorem theme?_defineTheme (theme : Theme) (other : String) :
    (e.defineTheme name theme).theme? other = if other = name then some theme else e.theme? other :=
  Table.get?_set e.themes name other theme

/-- A theme that is defined is activated and shown, another one is refused. -/
theorem setTheme_cases :
    (∃ theme, e.theme? name = some theme ∧
      e.setTheme name = .ok { e with active := some name, shown := theme }) ∨
    (e.theme? name = none ∧ e.setTheme name = .error (.unknownTheme name)) := by
  unfold setTheme
  cases h : e.theme? name with
  | some theme => exact Or.inl ⟨theme, rfl, rfl⟩
  | none => exact Or.inr ⟨rfl, rfl⟩

/-- A theme that loads is defined, and one that does not changes nothing. -/
theorem registerTheme_cases (h : Highlighter) (files : FileTree) (entry : ThemeEntry) :
    (∃ data, ThemeData.load files h.themeRoot entry.name entry.url = .ok data ∧
      h.registerTheme e files entry =
        (e.defineTheme entry.name (.ofData entry.name data), .ok (.ofData entry.name data))) ∨
    (∃ cause, ThemeData.load files h.themeRoot entry.name entry.url = .error cause ∧
      h.registerTheme e files entry = (e, .error (.theme cause))) := by
  unfold Highlighter.registerTheme
  cases hload : ThemeData.load files h.themeRoot entry.name entry.url with
  | ok data => exact Or.inl ⟨data, rfl, rfl⟩
  | error cause => exact Or.inr ⟨cause, rfl, rfl⟩

/-- Themes are registered one after the other. -/
theorem registerThemes_fst (h : Highlighter) (files : FileTree) (entries : List ThemeEntry) :
    (h.registerThemes e files entries).1 =
      entries.foldl (fun e entry => (h.registerTheme e files entry).1) e := by
  induction entries generalizing e with
  | nil => rfl
  | cons entry rest ih => exact ih (h.registerTheme e files entry).1

end Calls

/-! ### Activating a theme -/

/-- What activating a theme leads to: it is active and no definition changed; or it is not defined, which
is reported, and the usual theme is active, which was defined just if it was not before. -/
structure Activation (before : Editor) (name : String) (after : Editor)
    (result : Except SetupError Unit) : Prop where
  ok_iff : result = .ok () ∧ after.active = some name ↔ (before.theme? name).isSome = true
  defined : (before.theme? name).isSome = true → after.theme? = before.theme?
  unknown : before.theme? name = none →
    result = .error (.editor (.unknownTheme name)) ∧ after.active = some defaultThemeId ∧
      after.theme? defaultThemeId = (before.theme? defaultThemeId).or (some .defaultDark) ∧
      ∀ other, other ≠ defaultThemeId → after.theme? other = before.theme? other

/-- A theme that is not defined is reported, and the usual one is activated in its place. -/
theorem activateTheme_unknown {e : Editor} {name : String} (h : e.theme? name = none) :
    ∃ e' theme, Highlighter.activateTheme e name =
        ({ e' with active := some defaultThemeId, shown := theme },
          .error (.editor (.unknownTheme name))) ∧
      e'.theme? defaultThemeId = some theme ∧
      ((e.theme? defaultThemeId = some theme ∧ e' = e) ∨
        (e.theme? defaultThemeId = none ∧ theme = .defaultDark ∧
          e' = e.defineTheme defaultThemeId .defaultDark)) := by
  obtain ⟨theme, htheme, _⟩ | ⟨_, hset⟩ := setTheme_cases e name
  · cases h.symm.trans htheme
  unfold Highlighter.activateTheme
  rw [hset]
  dsimp only
  -- the usual theme is there or is defined now, so that it can be set
  cases husual : e.theme? defaultThemeId with
  | some theme =>
    have hagain : e.setTheme defaultThemeId =
        .ok { e with active := some defaultThemeId, shown := theme } := by
      rw [setTheme, husual]
    rw [Option.isSome_some, if_pos rfl, hagain]
    exact ⟨e, theme, rfl, husual, Or.inl ⟨rfl, rfl⟩⟩
  | none =>
    have hnow : (e.defineTheme defaultThemeId .defaultDark).theme? defaultThemeId =
        some .defaultDark := by
      rw [theme?_defineTheme, if_pos rfl]
    have hagain : (e.defineTheme defaultThemeId .defaultDark).setTheme defaultThemeId =
        .ok { e.defineTheme defaultThemeId .defaultDark with
          active := some defaultThemeId, shown := .defaultDark } := by
      rw [setTheme, hnow]
    rw [Option.isSome_none, if_neg Bool.false_ne_true, hagain]
    exact ⟨_, .defaultDark, rfl, hnow, Or.inr ⟨rfl, rfl, rfl⟩⟩

/-- **Activating a theme** has one of the two outcomes, whatever the editor is like. -/
theorem activation (e : Editor) (name : String) :
    Activation e name (Highlighter.activateTheme e name).1 (Highlighter.activateTheme e name).2 := by
  obtain ⟨theme, htheme, hset⟩ | ⟨hnone, _⟩ := setTheme_cases e name
  · have hactivate : Highlighter.activateTheme e name =
        ({ e with active := some name, shown := theme }, .ok ()) := by
      rw [Highlighter.activateTheme, hset]
    rw [hactivate]
    constructor
    · rw [htheme]
      exact ⟨fun _ => rfl, fun _ => ⟨rfl, rfl⟩⟩
    · intro _
      rfl
    · intro hnone
      cases htheme.symm.trans hnone
  · obtain ⟨e', theme, hactivate, hdefined, hcases⟩ := activateTheme_unknown hnone
    rw [hactivate]
    constructor
    · rw [hnone]
      constructor
      · rintro ⟨hok, _⟩
        cases hok
      · intro hsome
        cases hsome
    · rw [hnone]
      intro hsome
      cases hsome
    · intro _
      refine ⟨rfl, rfl, ?_, ?_⟩
      · refine hdefined.trans ?_
        rcases hcases with ⟨husual, _⟩ | ⟨husual, hdark, _⟩
        · rw [husual, Option.some_or]
        · rw [husual, hdark]
          exact Option.none_or.symm
      · intro other hother
        show e'.theme? other = e.theme? other
        rcases hcases with ⟨_, rfl⟩ | ⟨_, _, rfl⟩
        · rfl
        · rw [theme?_defineTheme, if_neg hother]

/-! ### The active theme is defined and shown -/

section Settled

variable {e : Editor}

theorem settled_new : Settled {} := by
  intro name h
  cases h

/-- A theme that was found under its name may be activated. -/
theorem settled_activate {name : String} {theme : Theme} (h : e.theme? name = some theme) :
    Settled { e with active := some name, shown := theme } := by
  intro other hother
  obtain rfl := Option.some.inj hother
  exact h

theorem settled_defineTheme (h : e.Settled) (name : String) (theme : Theme) :
    (e.defineTheme name theme).Settled := by
  intro other hactive
  rw [active_defineTheme] at hactive
  rw [theme?_defineTheme]
  show _ = some (if e.active = some name then theme else e.shown)
  rw [hactive]
  -- the theme that is shown changes just if the active one is defined anew
  by_cases heq : other = name
  · rw [if_pos heq, if_pos (congrArg some heq)]
  · rw [if_neg heq, if_neg (fun hsome => heq (Option.some.inj hsome))]
    exact h other hactive

theorem settled_registerTheme (h : e.Settled) (highlighter : Highlighter) (files : FileTree)
    (entry : ThemeEntry) : (highlighter.registerTheme e files entry).1.Settled := by
  obtain ⟨data, _, hregister⟩ | ⟨cause, _, hregister⟩ := registerTheme_cases e highlighter files entry
  · rw [hregister]
    exact settled_defineTheme h entry.name _
  · rw [hregister]
    exact h

theorem settled_registerThemes (h : e.Settled) (highlighter : Highlighter) (files : FileTree)
    (entries : List ThemeEntry) : (highlighter.registerThemes e files entries).1.Settled := by
  rw [registerThemes_fst]
  induction entries generalizing e with
  | nil => exact h
  | cons entry rest ih => exact ih (settled_registerTheme h highlighter files entry)

theorem settled_activateTheme (e : Editor) (name : String) :
    (Highlighter.activateTheme e name).1.Settled := by
  obtain ⟨theme, htheme, hset⟩ | ⟨hnone, _⟩ := setTheme_cases e name
  · rw [Highlighter.activateTheme, hset]
    exact settled_activate htheme
  · obtain ⟨e', theme, hactivate, hdefined, _⟩ := activateTheme_unknown hnone
    rw [hactivate]
    exact settled_activate hdefined

/-- A call leaves an editor settled. -/
theorem settled_after (h : e.Settled) (call : ThemeCall) : (e.after call).Settled := by
  cases call with
  | define name theme => exact settled_defineTheme h name theme
  | set name =>
    obtain ⟨theme, htheme, hset⟩ | ⟨_, hset⟩ := setTheme_cases e name
    · rw [after, hset]
      exact settled_activate htheme
    · rw [after, hset]
      exact h
  | register highlighter files entry => exact settled_registerTheme h highlighter files entry
  | registerAll highlighter files entries => exact settled_registerThemes h highlighter files entries
  | activate name => exact settled_activateTheme e name

theorem settled_foldl (h : e.Settled) (calls : List ThemeCall) : (calls.foldl after e).Settled := by
  induction calls generalizing e with
  | nil => exact h
  | cons call rest ih => exact ih (settled_after h call)

end Settled

/-- **The active theme is a defined one**, after any calls that have to do with themes.

* The theme that is shown is the one that is defined under the active name, also if that one is defined
  anew.
* To set a theme that is not defined is refused, and so is to register one that does not load; neither
  changes anything. One that loads is defined.
* To activate a theme succeeds just if it is defined, and changes no definition then. Else it is reported
  as unknown, and the usual theme is active: it is defined if it was not, and no other theme is. -/
theorem activeTheme_defined (calls : List ThemeCall) :
    (∀ name, (afterAll calls).active = some name →
      (afterAll calls).theme? name = some (afterAll calls).shown ∧
      ∀ theme, ((afterAll calls).defineTheme name theme).active = some name ∧
        ((afterAll calls).defineTheme name theme).theme? name = some theme ∧
        ((afterAll calls).defineTheme name theme).shown = theme) ∧
    (∀ name, (afterAll calls).theme? name = none →
      (afterAll calls).setTheme name = .error (.unknownTheme name) ∧
      afterAll (calls ++ [.set name]) = afterAll calls) ∧
    (∀ (h : Highlighter) files entry,
      (∀ cause, ThemeData.load files h.themeRoot entry.name entry.url = .error cause →
        h.registerTheme (afterAll calls) files entry = (afterAll calls, .error (.theme cause))) ∧
      ∀ data, ThemeData.load files h.themeRoot entry.name entry.url = .ok data →
        h.registerTheme (afterAll calls) files entry =
          ((afterAll calls).defineTheme entry.name (.ofData entry.name data),
            .ok (.ofData entry.name data))) ∧
    ∀ name, Activation (afterAll calls) name
      (Highlighter.activateTheme (afterAll calls) name).1
      (Highlighter.activateTheme (afterAll calls) name).2 := by
  refine ⟨?_, ?_, ?_, activation _⟩
  · intro name hactive
    refine ⟨settled_foldl settled_new calls name hactive, fun theme => ⟨hactive, ?_, ?_⟩⟩
    · rw [theme?_defineTheme, if_pos rfl]
    · show (if (afterAll calls).active = some name then theme else _) = theme
      rw [if_pos hactive]
  · intro name hnone
    obtain ⟨theme, htheme, _⟩ | ⟨_, hset⟩ := setTheme_cases (afterAll calls) name
    · cases hnone.symm.trans htheme
    · refine ⟨hset, ?_⟩
      rw [afterAll, List.foldl_append]
      show ((afterAll calls).setTheme name).toOption.getD (afterAll calls) = afterAll calls
      rw [hset]
      rfl
  · intro h files entry
    obtain ⟨data, hload, hregister⟩ | ⟨cause, hload, hregister⟩ :=
      registerTheme_cases (afterAll calls) h files entry
    · constructor
      · intro cause hfails
        cases hload.symm.trans hfails
      · intro data' hloads
        obtain rfl := Except.ok.inj (hload.symm.trans hloads)
        exact hregister
    · constructor
      · intro cause' hfails
        obtain rfl := Except.error.inj (hload.symm.trans hfails)
        exact hregister
      · intro data hloads
        cases hload.symm.trans hloads

example : (afterAll [.activate "mine", .define "mine" .defaultDark, .set "yours"]).active =
    some "play-dark" := by
  rfl

end Editor

end Tincture
