import Tincture.Pattern.ByteScan
import Tincture.Proofs.Tokens.Steps

/-!
# Tokens cover their line

Whatever the grammar is and whatever stack a line starts with, its tokens start at 0, each starts
after the one before it, and all start inside the line (`cutLine_tokens`). An empty line has one
token. Counted in bytes of the text the tokens are in the same order, and their columns can be read
off the offsets again.
-/

namespace Tincture

open Text

/-! ### Columns and bytes -/

/-- The characters before a place are the ones that lie wholly in the bytes before it. -/
theorem Scanner.columnOfByte_byteOffset (text : List Char) (pos : Nat) :
    Scanner.columnOfByte text (Scanner.byteOffset text pos) = min pos text.length := by
  rw [columnOfByte, byteOffset]
  induction text generalizing pos with
  | nil => rw [wholeCharsBefore, List.length_nil, Nat.min_zero]
  | cons c rest ih =>
    have hc := c.utf8Size_pos
    cases pos with
    | zero =>
      rw [List.take_zero, byteLength_nil, wholeCharsBefore, if_neg (by omega), Nat.zero_min]
    | succ pos =>
      rw [List.take_succ_cons, byteLength_cons, wholeCharsBefore, if_pos (Nat.le_add_right _ _),
        Nat.add_sub_cancel_left, ih, List.length_cons]
      omega

/-- Places further on have larger byte offsets. -/
theorem Scanner.byteOffset_lt {text : List Char} {m n : Nat} (h : m < n) (hn : n ≤ text.length) :
    Scanner.byteOffset text m < Scanner.byteOffset text n := by
  obtain ⟨k, rfl⟩ := Nat.exists_eq_add_of_lt h
  have hle : Scanner.byteOffset text m ≤ Scanner.byteOffset text (m + k + 1) := by
    rw [byteOffset, byteOffset, Nat.add_assoc, List.take_add, byteLength_append]
    exact Nat.le_add_right _ _
  -- places with the same byte offset have the same column
  refine Nat.lt_of_le_of_ne hle fun heq => ?_
  have hm := columnOfByte_byteOffset text m
  rw [heq, columnOfByte_byteOffset] at hm
  omega

/-! ### Lines -/

namespace Paint

/-- An empty line has one token, whatever was painted: no stroke starts before the line feed. -/
theorem Filled.finish_empty {P : List String → Prop} {p : Paint} (h : Filled P 1 p)
    (scopes : List String) : p.finish 0 scopes = [⟨0, scopes⟩] := by
  have hmem := h.of_mem_strokes
  have hsorted := h.pairwise_strokes
  have hstop := h.stop_le
  unfold Paint.finish
  cases hstrokes : p.strokes with
  | nil => rfl
  | cons t rest =>
    rw [hstrokes] at hmem hsorted
    have hrest : rest = [] := by
      refine List.eq_nil_iff_forall_not_mem.mpr fun u hu => ?_
      have hut := (List.pairwise_cons.mp hsorted).1 u hu
      have ht := (hmem t List.mem_cons_self).1
      omega
    rw [hrest]
    rfl

end Paint

/-- **The tokens of a line** start at 0, and each starts after the one before it, both in characters
and in bytes; all of them start inside the line, so that none is left of the line feed that patterns
see after it. An empty line has one token, with the scopes that the line hands on. -/
theorem cutLine_tokens (g : Grammar) (line : List Char) (stack : RuleStack) :
    let t := tokenizeLine g line stack
    let text := line ++ ['\n']
    t.tokens ≠ [] ∧ t.tokens.head?.map (·.column) = some 0 ∧
    t.tokens.Pairwise (fun a b => a.column < b.column) ∧
    (∀ a ∈ t.tokens, a.column < max 1 line.length) ∧
    t.tokens.Pairwise (fun a b =>
      Scanner.byteOffset text a.column < Scanner.byteOffset text b.column) ∧
    (∀ a ∈ t.tokens, Scanner.columnOfByte text (Scanner.byteOffset text a.column) = a.column) ∧
    (line = [] → t.tokens = [⟨0, t.stack.innerScopes⟩]) := by
  intro t text
  have hstart : Tokenize.FramesHave (fun _ => True) (g.start stack) := fun _ _ => ⟨trivial, trivial⟩
  have hfilled := (Tokenize.filled_lastState (fun _ _ _ => trivial) line hstart).paint
  have hcut : Paint.CutLine line.length t.tokens :=
    (hfilled.finish trivial).1
  have hlength : text.length = line.length + 1 := by
    rw [List.length_append, List.length_singleton]
  have hinside : ∀ a ∈ t.tokens, a.column ≤ text.length := by
    intro a ha
    have hlt := hcut.lt a ha
    omega
  refine ⟨?_, hcut.head, hcut.sorted, hcut.lt, ?_, ?_, ?_⟩
  · intro hnil
    have hhead := hcut.head
    rw [hnil] at hhead
    simp at hhead
  · refine hcut.sorted.imp_of_mem fun _ hb hlt => ?_
    exact Scanner.byteOffset_lt hlt (hinside _ hb)
  · intro a ha
    rw [Scanner.columnOfByte_byteOffset, Nat.min_eq_left (hinside a ha)]
  · rintro rfl
    exact hfilled.finish_empty _

end Tincture
