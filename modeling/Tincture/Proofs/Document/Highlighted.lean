import Mathlib.Data.List.Basic
import Tincture.CommandLine.Terminal
import Tincture.Proofs.Document.Edit
import Tincture.Proofs.Document.Pass
import Tincture.Proofs.Tokens.LineTokens
import Tincture.Proofs.Tokens.OpenRegions
import Tincture.Text.Lines

/-!
# Documents in colours are complete

A line is printed piece by piece, and a piece goes from where its token starts to where the next one
does. Nothing of the line is lost if the first token starts at 0, and nothing is printed twice or in
another order if each starts after the one before it (`LeftToRight`). The tokens of all providers are
like that, whatever stack a line begins with, and a pass over a document puts no others into it. So
what is printed of a text is its lines, each ended by a line feed, with sequences that only turn
styles on and off between them (`highlighted_in_full`).
-/

namespace Tincture

open Text

/-! ### Tokens from left to right -/

/-- Tokens of which the first one starts at 0, and each after the one before it. -/
structure LeftToRight (tokens : List StyledToken) : Prop where
  head : tokens.head?.map (·.column) = some 0
  sorted : tokens.Pairwise (·.column < ·.column)

/-- A theme does not move tokens. -/
@[simp] theorem Token.column_styled (theme : Option Theme) (t : Token) :
    (t.styled theme).column = t.column := by
  unfold styled
  cases theme with
  | none => rfl
  | some theme => cases h : DisplayToken.resolve t.scopes theme <;> simp only [h]

namespace TokensProvider

theorem leftToRight_plain (line : List Char) (stack : RuleStack) :
    LeftToRight (plain.tokenize line stack).tokens where
  head := rfl
  sorted := List.pairwise_singleton _ _

theorem leftToRight_ofGrammar (g : Grammar) (theme : Option Theme) (line : List Char)
    (stack : RuleStack) : LeftToRight ((ofGrammar g theme).tokenize line stack).tokens := by
  obtain ⟨_, hhead, hsorted, _⟩ := cutLine_tokens g line stack
  constructor
  · rw [← hhead]
    show ((tokenizeLine g line stack).tokens.map (Token.styled theme)).head?.map _ = _
    rw [List.head?_map, Option.map_map]
    exact congrArg (fun f => Option.map f _) (funext (Token.column_styled theme))
  · refine List.pairwise_map.mpr (hsorted.imp fun {a b} hlt => ?_)
    rwa [Token.column_styled, Token.column_styled]

end TokensProvider

/-! ### Pieces of a line -/

namespace Terminal

/-- The pieces for tokens from left to right are the line from the first of them on. -/
theorem flatMap_fragments_cons (line : List Char) (t : StyledToken) {rest : List StyledToken}
    (h : (t :: rest).Pairwise (·.column < ·.column)) :
    (fragments line (t :: rest)).flatMap (·.text) = line.drop t.column := by
  rw [List.drop_eq_drop_min]
  induction rest generalizing t with
  | nil =>
    simp only [fragments, List.flatMap_cons, List.flatMap_nil, List.append_nil]
    rw [List.take_of_length_le (Nat.le_of_eq List.length_drop)]
  | cons next rest ih =>
    obtain ⟨hfirst, hrest⟩ := List.pairwise_cons.mp h
    have hlt : t.column < next.column := hfirst next List.mem_cons_self
    rw [fragments, List.flatMap_cons, ih next hrest]
    -- the next piece starts where this one stops
    have hstop : min t.column line.length + (min next.column line.length - min t.column line.length)
        = min next.column line.length := by omega
    calc (line.drop (min t.column line.length)).take
            (min next.column line.length - min t.column line.length) ++
          line.drop (min next.column line.length)
        = (line.drop (min t.column line.length)).take
              (min next.column line.length - min t.column line.length) ++
            (line.drop (min t.column line.length)).drop
              (min next.column line.length - min t.column line.length) := by
          rw [List.drop_drop, hstop]
      _ = line.drop (min t.column line.length) := List.take_append_drop _ _

/-- The pieces for tokens from left to right are the line. -/
theorem flatMap_fragments {tokens : List StyledToken} (h : LeftToRight tokens) (line : List Char) :
    (fragments line tokens).flatMap (·.text) = line := by
  cases tokens with
  | nil => cases h.head
  | cons t rest =>
    have hzero : t.column = 0 := Option.some.inj h.head
    rw [flatMap_fragments_cons line t h.sorted, hzero, List.drop_zero]

/-- The pieces of a document, with the line feeds that end its lines. -/
def documentFragments (d : Document) : List Fragment :=
  (List.range d.lineCount).flatMap fun i =>
    fragments ((d.line? i).getD []) ((d.tokens? i).getD []) ++ [⟨none, ['\n']⟩]

/-- The sequences around a piece say nothing of its text. -/
theorem Fragment.write_eq (f : Fragment) :
    f.write = f.style.elim [] select ++ f.text ++ f.style.elim [] fun _ => reset := by
  unfold write
  cases f.style with
  | none => exact (List.append_nil f.text).symm
  | some style => rfl

/-- A document in colours is its pieces, each with its style turned on before it and off after it. -/
theorem highlighted_eq (d : Document) : highlighted d = (documentFragments d).flatMap fun f =>
    f.style.elim [] select ++ f.text ++ f.style.elim [] fun _ => reset := by
  rw [highlighted, documentFragments, List.flatMap_assoc, ← funext Fragment.write_eq]
  refine List.flatMap_congr fun i _ => ?_
  rw [List.flatMap_append]
  rfl

end Terminal

/-! ### Documents -/

namespace Document

variable {p : TokensProvider}

theorem line?_eq_getElem?_lines (d : Document) (i : Nat) : d.line? i = d.lines[i]? :=
  (List.getElem?_map).symm

theorem lines_eq_map_range (d : Document) :
    d.lines = (List.range d.lineCount).map fun i => (d.line? i).getD [] := by
  refine List.ext_getElem (by simp) fun i hi _ => ?_
  simp [line?_eq_getElem?_lines, List.getElem?_eq_getElem hi]

/-- All that is known of lines is tokens from left to right. -/
def KnownInOrder (slots : List (Option CachedLine)) : Prop :=
  ∀ c, some c ∈ slots → c.stale = false → LeftToRight c.tokens

theorem knownInOrder_cons_some {c : CachedLine} {slots : List (Option CachedLine)} :
    KnownInOrder (some c :: slots) ↔
      (c.stale = false → LeftToRight c.tokens) ∧ KnownInOrder slots := by
  simp [KnownInOrder]

theorem knownInOrder_ofText (text : List Char) : KnownInOrder (ofText text).slots := by
  intro c hc
  cases List.eq_of_mem_replicate hc

/-- A pass puts only tokens from left to right into a document, if the provider gives no others. -/
theorem PassRun.knownInOrder {todo : Nat} {settled : Bool} {stack : RuleStack}
    {lines : List (List Char)} {slots : List (Option CachedLine)} {r : Pass}
    (h : PassRun p todo settled stack lines slots r)
    (hp : ∀ line stack, LeftToRight (p.tokenize line stack).tokens) (hslots : KnownInOrder slots) :
    KnownInOrder r.slots := by
  induction h with
  | ended => exact hslots
  | stopped => exact hslots
  | kept _ _ _ _ ih =>
    obtain ⟨hfirst, hrest⟩ := knownInOrder_cons_some.mp hslots
    exact knownInOrder_cons_some.mpr ⟨hfirst, ih hrest⟩
  | computed _ _ ih =>
    have hrest := ih fun c hc => hslots c (List.mem_cons_of_mem _ hc)
    exact knownInOrder_cons_some.mpr ⟨fun _ => hp _ _, hrest⟩

/-- A pass over a text that nothing is known of goes to the last line. -/
theorem exists_passRun_ofText (p : TokensProvider) (text : List Char) {upTo : Nat}
    (hup : (ofText text).lineCount ≤ upTo + 1) : ∃ todo r,
    PassRun p todo false p.initial (ofText text).lines (ofText text).slots r ∧
      r.reached = (ofText text).lineCount ∧
      ((ofText text).ensureTokenized p upTo).1 = ⟨text, r.slots, r.reached⟩ := by
  have hfits : (brokenLines text).length = (ofText text).slots.length := List.length_replicate.symm
  have hcount : (ofText text).slots.length = (ofText text).lineCount := hfits.symm
  have hpos := (ofText text).lineCount_pos
  have hrun := passRun_pass p (min upTo ((ofText text).slots.length - 1) + 1) false p.initial hfits
  refine ⟨_, _, hrun, ?_, ?_⟩
  · have hreached := hrun.reached_le
    rcases hrun.todo_le_or_eq with htodo | hend
    · omega
    · omega
  · simp [ensureTokenized, ofText, stackBefore]

/-- **What is printed of a text in colours is the text.** When a pass went over its lines, with a
grammar or without one and under any theme, each line has tokens, and the pieces that are printed for
them are the line. So all that is printed is the lines, each ended by a line feed; the sequences that
turn a style on and off stand around pieces. -/
theorem highlighted_in_full (text : List Char) (grammar : Option Grammar) (theme : Option Theme)
    {upTo : Nat} (hup : (ofText text).lineCount ≤ upTo + 1) :
    let p := grammar.elim TokensProvider.plain (TokensProvider.ofGrammar · theme)
    let d := ((ofText text).ensureTokenized p upTo).1
    d.lines = (ofText text).lines ∧
    (∀ i < d.lineCount, ∃ line tokens, d.line? i = some line ∧ d.tokens? i = some tokens ∧
      (Terminal.fragments line tokens).flatMap (·.text) = line) ∧
    (Terminal.highlighted d = (Terminal.documentFragments d).flatMap fun f =>
      f.style.elim [] Terminal.select ++ f.text ++ f.style.elim [] fun _ => Terminal.reset) ∧
    (Terminal.documentFragments d).flatMap (·.text) = unlines d.lines := by
  intro p d
  have hp : ∀ line stack, LeftToRight (p.tokenize line stack).tokens := by
    cases grammar with
    | none => exact TokensProvider.leftToRight_plain
    | some g => exact TokensProvider.leftToRight_ofGrammar g theme
  obtain ⟨todo, r, hrun, hreached, hd⟩ := exists_passRun_ofText p text hup
  have hknown : KnownInOrder r.slots := hrun.knownInOrder hp (knownInOrder_ofText text)
  have hline : ∀ i < d.lineCount, ∃ line tokens, d.line? i = some line ∧
      d.tokens? i = some tokens ∧ (Terminal.fragments line tokens).flatMap (·.text) = line := by
    intro i hi
    obtain ⟨c, hc, hstale⟩ := hrun.exists_of_lt_reached (hreached.symm ▸ hi)
    have hi' : i < d.lines.length := by rwa [length_lines]
    have hline : d.line? i = some d.lines[i] := by
      rw [line?_eq_getElem?_lines, List.getElem?_eq_getElem]
    have htokens : d.tokens? i = some c.tokens := by
      rw [show d = _ from hd, tokens?, cached?, if_pos (hreached.symm ▸ hi), hc]
      rfl
    have horder : LeftToRight c.tokens := hknown c (List.mem_of_getElem? hc) hstale
    exact ⟨_, _, hline, htokens, Terminal.flatMap_fragments horder _⟩
  refine ⟨rfl, hline, Terminal.highlighted_eq d, ?_⟩
  calc (Terminal.documentFragments d).flatMap (·.text)
      = (List.range d.lineCount).flatMap fun i => (d.line? i).getD [] ++ ['\n'] := by
        rw [Terminal.documentFragments, List.flatMap_assoc]
        refine List.flatMap_congr fun i hi => ?_
        obtain ⟨line, tokens, hl, ht, hpieces⟩ := hline i (List.mem_range.mp hi)
        rw [hl, ht, Option.getD_some, Option.getD_some, List.flatMap_append, hpieces]
        rfl
    _ = unlines d.lines := by
        rw [unlines, lines_eq_map_range, List.flatMap_map]

/-- A quotation with a letter of two bytes and an open region, a carriage return, and an empty line at
the end. -/
theorem highlighted_in_full_quote :
    let text := "> é `x\r\ny\n".toList
    let p := TokensProvider.ofGrammar Grammar.quote (some Theme.defaultDark)
    let d := ((ofText text).ensureTokenized p maxWord).1
    (ofText text).lineCount ≤ maxWord + 1 ∧
      (Terminal.documentFragments d).flatMap (·.text) = "> é `x\ny\n\n".toList := by
  intro text p d
  have hup : (ofText text).lineCount ≤ maxWord + 1 := by decide
  obtain ⟨hlines, _, _, hpieces⟩ :=
    highlighted_in_full text (some Grammar.quote) (some .defaultDark) hup
  refine ⟨hup, hpieces.trans ?_⟩
  rw [hlines]
  decide

end Document

end Tincture
