import Mathlib.Data.List.Induction
import Tincture.Format.Session
import Tincture.Proofs.Format.RawBlocks

/-!
# Sessions are all or nothing

Reading the lines of a document fails in one way only: a raw block is opened and never closed
(`exists_neverClosed`). Neither the indentation nor the braces have a part in that, so the document as
it was understood, its layout and its formatted text are all there or fail with the same line, under
any settings that are not refused (`whitespace_agree`).

A session goes through any number of runs, under settings that change in between, and its error may be
dismissed. What it holds at the end is said by looking back: the output is that of the last run that
succeeded, and the error is that of a run after which nothing happened but new settings
(`session_all_or_nothing`).
-/

namespace Tincture

open Text

namespace Format

/-! ### Raw blocks that are never closed -/

/-- A raw block among the lines of a document that is opened and never closed. -/
structure NeverClosed (texts before : List (List Char)) (opening : List Char)
    (after : List (List Char)) : Prop where
  eq : texts = before ++ opening :: after
  outside : before.foldl rawAfter false = false
  opens : startsFence (trim opening) = true ∧ togglesRaw (trim opening) = true
  inside : ∀ text ∈ after, startsFence (trimStart text) = false

/-- The raw block that is open behind all of some texts was opened on line `n`: before the first of
them, which is line `number`, or on one of them. -/
def OpenedOn (number : Nat) (opened : Option Nat) (texts : List (List Char)) (n : Nat) : Prop :=
  (opened = some n ∧ ∀ text ∈ texts, startsFence (trimStart text) = false) ∨
  ∃ before opening after, texts = before ++ opening :: after ∧ n = number + before.length ∧
    before.foldl rawAfter opened.isSome = false ∧ rawAfter false opening = true ∧
    ∀ text ∈ after, startsFence (trimStart text) = false

/-- Where the raw block was opened that is open behind line `number`. -/
def openedAfter (number : Nat) (opened : Option Nat) (text : List Char) : Option Nat :=
  if rawAfter opened.isSome text then some (opened.getD number) else none

theorem isSome_openedAfter (number : Nat) (opened : Option Nat) (text : List Char) :
    (openedAfter number opened text).isSome = rawAfter opened.isSome text := by
  unfold openedAfter
  split_ifs with h <;> simp [h]

theorem OpenedOn.cons {number n : Nat} {opened : Option Nat} {text : List Char}
    {rest : List (List Char)} (h : OpenedOn (number + 1) (openedAfter number opened text) rest n) :
    OpenedOn number opened (text :: rest) n := by
  rcases h with ⟨hopened, hinside⟩ | ⟨before, opening, after, rfl, rfl, houtside, hopens, hinside⟩
  · -- the block is open behind this line: it was before, or this line opens it
    unfold openedAfter at hopened
    split_ifs at hopened with hraw
    cases opened with
    | none => exact Or.inr ⟨[], text, rest, rfl, (Option.some.inj hopened).symm, rfl, hraw, hinside⟩
    | some start =>
      have hfence : startsFence (trimStart text) = false := by simpa [rawAfter] using hraw
      exact Or.inl ⟨hopened, List.forall_mem_cons.mpr ⟨hfence, hinside⟩⟩
  · refine Or.inr ⟨text :: before, opening, after, rfl, ?_, ?_, hopens, hinside⟩
    · rw [List.length_cons]
      omega
    · rwa [List.foldl_cons, ← isSome_openedAfter number]

/-- One line is read, and then the others. -/
theorem exists_linesFrom_cons (tabSpaces number depth : Nat) (opened : Option Nat)
    (text : List Char) (rest : List (List Char)) : ∃ line depth',
    linesFrom tabSpaces number opened depth (text :: rest) =
      (linesFrom tabSpaces (number + 1) (openedAfter number opened text) depth' rest).map
        (line :: ·) := by
  cases opened with
  | none =>
    have hopens : ((Line.ofText tabSpaces number depth text).kind = .rawFence ∧
        togglesRaw (Line.ofText tabSpaces number depth text).content = true) ↔
          rawAfter false text = true := by
      rw [← rawBehind_read tabSpaces number false depth text, Line.read, Line.rawBehind]
      simp
    rw [linesFrom]
    simp only [hopens]
    exact ⟨_, _, rfl⟩
  | some start =>
    have hopened : (if startsFence (trimStart text) = true then none else some start) =
        openedAfter number (some start) text := by
      cases hfence : startsFence (trimStart text) <;> simp [openedAfter, rawAfter, hfence]
    rw [linesFrom, hopened]
    exact ⟨_, depth, rfl⟩

/-- **Lines are not read** if a raw block is open behind the last of them, and then the error tells the
line that opens it, however wide a tab is and whatever braces are open. -/
theorem exists_openedOn (number : Nat) (opened : Option Nat) {texts : List (List Char)}
    (h : texts.foldl rawAfter opened.isSome = true) :
    ∃ n, OpenedOn number opened texts n ∧ ∀ tabSpaces depth,
      linesFrom tabSpaces number opened depth texts = .error (.unclosedRaw n) := by
  induction texts generalizing number opened with
  | nil =>
    obtain ⟨n, rfl⟩ := Option.isSome_iff_exists.mp h
    exact ⟨n, Or.inl ⟨rfl, fun _ hmem => absurd hmem List.not_mem_nil⟩, fun _ _ => rfl⟩
  | cons text rest ih =>
    rw [List.foldl_cons, ← isSome_openedAfter number] at h
    obtain ⟨n, hn, herror⟩ := ih (number + 1) (openedAfter number opened text) h
    refine ⟨n, hn.cons, fun tabSpaces depth => ?_⟩
    obtain ⟨line, depth', hcons⟩ :=
      exists_linesFrom_cons tabSpaces number depth opened text rest
    rw [hcons, herror]
    rfl

/-- A document whose lines are not read has a raw block that is never closed. -/
theorem exists_neverClosed {source : List Char}
    (h : (sourceLines source).foldl rawAfter false = true) : ∃ before opening after,
      NeverClosed (sourceLines source) before opening after ∧
      ∀ tabSpaces, documentLines tabSpaces source = .error (.unclosedRaw (before.length + 1)) := by
  obtain ⟨n, hn, herror⟩ := exists_openedOn 1 none h
  rcases hn with ⟨hnone, _⟩ | ⟨before, opening, after, heq, rfl, houtside, hopens, hinside⟩
  · cases hnone
  · refine ⟨before, opening, after, ⟨heq, houtside, ?_, hinside⟩, fun tabSpaces => ?_⟩
    · simpa [rawAfter] using hopens
    · rw [Nat.add_comm]
      exact herror tabSpaces 0

end Format

namespace Formatter

/-! ### One run -/

/-- A formatter answers all three questions about a document. -/
structure Gives (f : Formatter) (source : List Char) (config : FormatConfig) (o : FormatOutput) :
    Prop where
  parse : f.parse source = .ok o.ast
  layout : f.layout source config = .ok o.ir
  format : f.format source config = .ok o.formatted

theorem run_eq_ok_iff {f : Formatter} {source : List Char} {config : FormatConfig}
    {o : FormatOutput} : f.run source config = .ok o ↔ f.Gives source config o := by
  unfold run
  constructor
  · intro h
    cases hparse : f.parse source with
    | error e =>
      rw [hparse] at h
      cases h
    | ok ast =>
      cases hlayout : f.layout source config with
      | error e =>
        rw [hparse, hlayout] at h
        cases h
      | ok ir =>
        cases hformat : f.format source config with
        | error e =>
          rw [hparse, hlayout, hformat] at h
          cases h
        | ok formatted =>
          rw [hparse, hlayout, hformat] at h
          cases h
          exact ⟨hparse, hlayout, hformat⟩
  · rintro ⟨hparse, hlayout, hformat⟩
    rw [hparse, hlayout, hformat]
    rfl

theorem parse_whitespace (source : List Char) : whitespace.parse source = Format.tree source := rfl

theorem layout_whitespace (source : List Char) (config : FormatConfig) :
    whitespace.layout source config = Format.pieces config source := rfl

theorem format_whitespace (source : List Char) (config : FormatConfig) :
    whitespace.format source config = Format.format config source := rfl

/-- **The three answers about a document** are all there, or the three questions fail alike: a raw
block is never closed, and the error tells the line that opens it. The settings have no part in that,
unless they are refused. -/
theorem whitespace_agree (source : List Char) :
    (∃ ast, whitespace.parse source = .ok ast ∧ ∀ config : FormatConfig, config.check = .ok () →
      ∃ o, o.ast = ast ∧ whitespace.Gives source config o) ∨
    ∃ before opening after, Format.NeverClosed (Format.sourceLines source) before opening after ∧
      whitespace.parse source = .error (.unclosedRaw (before.length + 1)) ∧
      ∀ config : FormatConfig, config.check = .ok () →
        whitespace.layout source config = .error (.unclosedRaw (before.length + 1)) ∧
        whitespace.format source config = .error (.unclosedRaw (before.length + 1)) := by
  cases hopen : (Format.sourceLines source).foldl Format.rawAfter false with
  | false =>
    have hlines : ∀ tabSpaces, ∃ ls, Format.documentLines tabSpaces source = .ok ls :=
      fun tabSpaces => ⟨_, Format.documentLines_eq_ok_iff.mpr ⟨hopen, rfl⟩⟩
    have hparse : ∃ ast, whitespace.parse source = .ok ast := by
      obtain ⟨ls, hls⟩ := hlines 2
      rw [parse_whitespace, Format.tree, hls]
      exact ⟨_, rfl⟩
    obtain ⟨ast, hast⟩ := hparse
    refine Or.inl ⟨ast, hast, fun config hcheck => ?_⟩
    obtain ⟨ls, hls⟩ := hlines config.tabSpaces
    have hlayout : ∃ ir, whitespace.layout source config = .ok ir := by
      rw [layout_whitespace, Format.pieces, hcheck, hls]
      exact ⟨_, rfl⟩
    have hformat : ∃ formatted, whitespace.format source config = .ok formatted := by
      rw [format_whitespace, Format.format, hcheck, hls]
      exact ⟨_, rfl⟩
    obtain ⟨ir, hir⟩ := hlayout
    obtain ⟨formatted, hformatted⟩ := hformat
    exact ⟨⟨formatted, ast, ir⟩, rfl, hast, hir, hformatted⟩
  | true =>
    obtain ⟨before, opening, after, hnever, hlines⟩ := Format.exists_neverClosed hopen
    refine Or.inr ⟨before, opening, after, hnever, ?_, fun config hcheck => ⟨?_, ?_⟩⟩
    · rw [parse_whitespace, Format.tree, hlines]
      rfl
    · rw [layout_whitespace, Format.pieces, hcheck, hlines]
      rfl
    · rw [format_whitespace, Format.format, hcheck, hlines]
      rfl

end Formatter

/-! ### The last operation that counts -/

section LastWrite

variable {α β : Type}

/-- A list that ends in `op`, cut at one of its elements: that is `op` itself, or it is one of those
before. -/
theorem cases_of_concat_eq {ops before after : List α} {op o : α}
    (h : ops ++ [op] = before ++ o :: after) : (ops = before ∧ op = o ∧ after = []) ∨
      ∃ after', after = after' ++ [op] ∧ ops = before ++ o :: after' := by
  rcases List.eq_nil_or_concat' after with rfl | ⟨after', op', rfl⟩
  · obtain ⟨hops, hop⟩ := List.append_inj' h rfl
    exact Or.inl ⟨hops, List.singleton_inj.mp hop, rfl⟩
  · rw [← List.cons_append, ← List.append_assoc] at h
    obtain ⟨hops, hop⟩ := List.append_inj' h rfl
    exact Or.inr ⟨after', by rw [hop], hops⟩

/-- A value that operations may write, one after the other, is what the last of those wrote that did.
The operation `op` after the operations `ops` writes `write ops op`, or leaves the value. -/
theorem eq_some_iff_exists_last (value : List α → Option β)
    {write : List α → α → Option (Option β)} (hnil : value [] = none)
    (hstep : ∀ ops op, value (ops ++ [op]) = (write ops op).getD (value ops)) (ops : List α) (v : β) :
    value ops = some v ↔ ∃ before op after, ops = before ++ op :: after ∧
      write before op = some (some v) ∧ ∀ mid later rest, after = mid ++ later :: rest →
        write (before ++ op :: mid) later = none := by
  induction ops using List.reverseRecOn with
  | nil => simp [hnil]
  | append_singleton ops op ih =>
    rw [hstep]
    cases hwrite : write ops op with
    | none =>
      rw [Option.getD_none, ih]
      constructor
      · rintro ⟨before, o, after, rfl, hv, hlater⟩
        refine ⟨before, o, after ++ [op], by rw [List.append_assoc, List.cons_append], hv, ?_⟩
        intro mid later rest heq
        rcases cases_of_concat_eq heq with ⟨rfl, rfl, rfl⟩ | ⟨rest', rfl, rfl⟩
        · exact hwrite
        · exact hlater mid later rest' rfl
      · rintro ⟨before, o, after, heq, hv, hlater⟩
        rcases cases_of_concat_eq heq with ⟨rfl, rfl, rfl⟩ | ⟨after', rfl, rfl⟩
        · cases hwrite.symm.trans hv
        · refine ⟨before, o, after', rfl, hv, fun mid later rest heq => ?_⟩
          exact hlater mid later (rest ++ [op]) (by rw [heq, List.append_assoc, List.cons_append])
    | some written =>
      rw [Option.getD_some]
      constructor
      · rintro rfl
        refine ⟨ops, op, [], rfl, hwrite, fun mid later rest heq => ?_⟩
        cases mid <;> cases heq
      · rintro ⟨before, o, after, heq, hv, hlater⟩
        rcases cases_of_concat_eq heq with ⟨rfl, rfl, rfl⟩ | ⟨after', rfl, rfl⟩
        · exact Option.some.inj (hwrite.symm.trans hv)
        · -- the last operation writes, so no earlier one is the last that does
          cases hwrite.symm.trans (hlater after' op [] rfl)

end LastWrite

namespace FormatSession

/-! ### Sessions -/

/-- What is done in a session; each run may be one of another formatter. -/
inductive Operation where
  | run (f : Formatter) (source : List Char)
  | setConfig (config : FormatConfig)
  | dismissError

/-- The session after an operation. -/
def apply (s : FormatSession) : Operation → FormatSession
  | .run f source => (s.run f source).1
  | .setConfig config => s.setConfig config
  | .dismissError => s.dismissError

/-- The session after some operations. -/
def after (config : FormatConfig) (ops : List Operation) : FormatSession :=
  ops.foldl apply (new config)

/-- The settings that an operation puts in force. -/
def Operation.config? : Operation → Option FormatConfig
  | .setConfig config => some config
  | .run _ _ | .dismissError => none

/-- The settings in force after some operations: the last ones that were set. -/
def inForce (config : FormatConfig) (ops : List Operation) : FormatConfig :=
  (ops.filterMap Operation.config?).getLast?.getD config

/-- A run takes all answers, or keeps the output and records the error. -/
theorem apply_run_cases (s : FormatSession) (f : Formatter) (source : List Char) :
    (∃ o, f.run source s.config = .ok o ∧
      s.apply (.run f source) = { s with output := some o, error := none }) ∨
    ∃ e, f.run source s.config = .error e ∧
      s.apply (.run f source) = { s with error := some e } := by
  rw [apply, run]
  cases f.run source s.config with
  | ok o => exact Or.inl ⟨o, rfl, rfl⟩
  | error e => exact Or.inr ⟨e, rfl, rfl⟩

variable {config : FormatConfig} {ops : List Operation}

theorem after_concat (op : Operation) : after config (ops ++ [op]) = (after config ops).apply op :=
  List.foldl_concat ..

theorem inForce_concat (op : Operation) :
    inForce config (ops ++ [op]) = op.config?.getD (inForce config ops) := by
  rw [inForce, List.filterMap_append]
  cases op with
  | setConfig c => exact congrArg (Option.getD · config) List.getLast?_concat
  | run | dismissError =>
    rw [List.filterMap_cons_none rfl, List.filterMap_nil, List.append_nil]
    rfl

/-- A session has the settings that were set last. -/
theorem config_after : (after config ops).config = inForce config ops := by
  induction ops using List.reverseRecOn with
  | nil => rfl
  | append_singleton ops op ih =>
    rw [after_concat, inForce_concat]
    cases op with
    | setConfig c => rfl
    | dismissError => exact ih
    | run f source =>
      rcases apply_run_cases (after config ops) f source with ⟨o, _, h⟩ | ⟨e, _, h⟩
      · exact (congrArg FormatSession.config h).trans ih
      · exact (congrArg FormatSession.config h).trans ih

/-- The output that an operation writes. -/
def writtenOutput (config : FormatConfig) (before : List Operation) :
    Operation → Option (Option FormatOutput)
  | .run f source => match f.run source (inForce config before) with
    | .ok o => some (some o)
    | .error _ => none
  | .setConfig _ | .dismissError => none

/-- The error, or that there is none, as an operation writes it. -/
def writtenError (config : FormatConfig) (before : List Operation) :
    Operation → Option (Option FormatError)
  | .run f source => match f.run source (inForce config before) with
    | .ok _ => some none
    | .error e => some (some e)
  | .setConfig _ => none
  | .dismissError => some none

theorem output_after_concat (op : Operation) : (after config (ops ++ [op])).output =
    (writtenOutput config ops op).getD (after config ops).output := by
  rw [after_concat]
  cases op with
  | setConfig | dismissError => rfl
  | run f source =>
    rw [writtenOutput, ← config_after]
    rcases apply_run_cases (after config ops) f source with ⟨o, hrun, h⟩ | ⟨e, hrun, h⟩
    · rw [hrun, h]
      rfl
    · rw [hrun, h]
      rfl

theorem error_after_concat (op : Operation) : (after config (ops ++ [op])).error =
    (writtenError config ops op).getD (after config ops).error := by
  rw [after_concat]
  cases op with
  | setConfig | dismissError => rfl
  | run f source =>
    rw [writtenError, ← config_after]
    rcases apply_run_cases (after config ops) f source with ⟨o, hrun, h⟩ | ⟨e, hrun, h⟩
    · rw [hrun, h]
      rfl
    · rw [hrun, h]
      rfl

theorem writtenOutput_eq_some_iff {op : Operation} {o : FormatOutput} :
    writtenOutput config ops op = some (some o) ↔
      ∃ f source, op = .run f source ∧ f.Gives source (inForce config ops) o := by
  cases op with
  | setConfig | dismissError => simp [writtenOutput]
  | run f source =>
    rw [writtenOutput]
    cases h : f.run source (inForce config ops) <;> simp [← Formatter.run_eq_ok_iff, h]

theorem writtenOutput_eq_none_iff {op : Operation} : writtenOutput config ops op = none ↔
    ∀ f source, op = .run f source → ∀ o, ¬ f.Gives source (inForce config ops) o := by
  cases op with
  | setConfig | dismissError => simp [writtenOutput]
  | run f source =>
    rw [writtenOutput]
    cases h : f.run source (inForce config ops) <;> simp [← Formatter.run_eq_ok_iff, h]

theorem writtenError_eq_some_iff {op : Operation} {e : FormatError} :
    writtenError config ops op = some (some e) ↔
      ∃ f source, op = .run f source ∧ f.run source (inForce config ops) = .error e := by
  cases op with
  | setConfig | dismissError => simp [writtenError]
  | run f source =>
    rw [writtenError]
    cases h : f.run source (inForce config ops) <;> simp [h]

theorem writtenError_eq_none_iff {op : Operation} :
    writtenError config ops op = none ↔ ∃ c, op = .setConfig c := by
  cases op with
  | setConfig | dismissError => simp [writtenError]
  | run f source =>
    rw [writtenError]
    cases f.run source (inForce config ops) <;> simp

/-- The output is that of the last run that succeeded. -/
theorem output_after_eq_some_iff {o : FormatOutput} : (after config ops).output = some o ↔
    ∃ before f source later, ops = before ++ .run f source :: later ∧
      f.Gives source (inForce config before) o ∧
      ∀ mid f' source' rest, later = mid ++ .run f' source' :: rest →
        ∀ o', ¬ f'.Gives source' (inForce config (before ++ .run f source :: mid)) o' := by
  rw [eq_some_iff_exists_last (fun ops => (after config ops).output) rfl
    (fun _ => output_after_concat)]
  simp only [writtenOutput_eq_some_iff, writtenOutput_eq_none_iff]
  constructor
  · rintro ⟨before, _, later, rfl, ⟨f, source, rfl, hgives⟩, hlater⟩
    exact ⟨before, f, source, later, rfl, hgives, fun mid f' source' rest heq =>
      hlater mid _ rest heq f' source' rfl⟩
  · rintro ⟨before, f, source, later, rfl, hgives, hlater⟩
    exact ⟨before, _, later, rfl, ⟨f, source, rfl, hgives⟩, fun mid op rest heq f' source' hop =>
      hlater mid f' source' rest (hop ▸ heq)⟩

/-- The error is that of the last run, if it failed and the error was not dismissed. -/
theorem error_after_eq_some_iff {e : FormatError} : (after config ops).error = some e ↔
    ∃ before f source later, ops = before ++ .run f source :: later ∧
      f.run source (inForce config before) = .error e ∧
      ∀ op ∈ later, ∃ c, op = .setConfig c := by
  rw [eq_some_iff_exists_last (fun ops => (after config ops).error) rfl
    (fun _ => error_after_concat)]
  simp only [writtenError_eq_some_iff, writtenError_eq_none_iff]
  constructor
  · rintro ⟨before, _, later, rfl, ⟨f, source, rfl, hfails⟩, hlater⟩
    refine ⟨before, f, source, later, rfl, hfails, fun op hop => ?_⟩
    obtain ⟨mid, rest, heq⟩ := List.append_of_mem hop
    exact hlater mid op rest heq
  · rintro ⟨before, f, source, later, rfl, hfails, hlater⟩
    refine ⟨before, _, later, rfl, ⟨f, source, rfl, hfails⟩, fun mid op rest heq => ?_⟩
    exact hlater op (heq ▸ List.mem_append_right mid List.mem_cons_self)

/-- **Sessions are all or nothing.** About a document the three questions to the formatter are all
answered, or all three fail with the line of a raw block that is never closed, whatever the settings
are as long as they are not refused; a tab may stand for any number of blanks, as if there were room
for texts of any length. And after any runs, settings and dismissals

* the output is what the last run that succeeded was answered, under the settings in force then, and
  there is none if no run succeeded;
* the error is that of a run that failed, if only settings came after it, and else there is none. -/
theorem session_all_or_nothing (source : List Char) (config : FormatConfig) (ops : List Operation) :
    ((∃ ast, Formatter.whitespace.parse source = .ok ast ∧
        ∀ config : FormatConfig, config.check = .ok () →
          ∃ o, o.ast = ast ∧ Formatter.whitespace.Gives source config o) ∨
      ∃ before opening after, Format.NeverClosed (Format.sourceLines source) before opening after ∧
        Formatter.whitespace.parse source = .error (.unclosedRaw (before.length + 1)) ∧
        ∀ config : FormatConfig, config.check = .ok () →
          Formatter.whitespace.layout source config = .error (.unclosedRaw (before.length + 1)) ∧
          Formatter.whitespace.format source config = .error (.unclosedRaw (before.length + 1))) ∧
    (∀ o, (after config ops).output = some o ↔
      ∃ before f source later, ops = before ++ .run f source :: later ∧
        f.Gives source (inForce config before) o ∧
        ∀ mid f' source' rest, later = mid ++ .run f' source' :: rest →
          ∀ o', ¬ f'.Gives source' (inForce config (before ++ .run f source :: mid)) o') ∧
    (∀ e, (after config ops).error = some e ↔
      ∃ before f source later, ops = before ++ .run f source :: later ∧
        f.run source (inForce config before) = .error e ∧
        ∀ op ∈ later, ∃ c, op = .setConfig c) :=
  ⟨Formatter.whitespace_agree source, fun _ => output_after_eq_some_iff,
    fun _ => error_after_eq_some_iff⟩

example : (after {} [.run .whitespace "a".toList, .setConfig { tabSpaces := 4 },
    .run .whitespace "b\n```c".toList]).error = some (.unclosedRaw 2) := by
  decide

end FormatSession

end Tincture
