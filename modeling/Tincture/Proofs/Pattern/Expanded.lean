import Tincture.Pattern.Dialect
import Tincture.Proofs.Text.EscapeClosed

/-!
# Patterns that are put together

The expansion of a pattern takes it piece by piece: an escape, a bracket with what belongs to it, or
a character. `Reads` has one rule for each kind of piece, and says what becomes of it and how many
brackets are open behind it; `Reads.induction` goes through a pattern by these rules.

Of what was read nothing is remembered but the open brackets and a backslash that waits for its
character. Where there is neither, two patterns are expanded as each of them by itself; and only
there (`expand_append_iff`). What an expansion changes is said by the places of a pattern
(`Rewritten`): a pattern without such a place is its own expansion, and no other is
(`expand_eq_self_iff`).
-/

namespace Tincture.Pattern.Dialect

open Text

/-- The number of brackets that are open behind a text which was entered with `depth` of them. -/
def depthAfter : Nat → List Char → Nat
  | depth, [] => depth
  | depth, '\\' :: _ :: rest => depthAfter depth rest
  | depth, '[' :: '^' :: ']' :: rest => depthAfter (depth + 1) rest
  | depth, '[' :: '^' :: rest => depthAfter (depth + 1) rest
  | depth, '[' :: ']' :: rest => depthAfter (depth + 1) rest
  | depth, '[' :: rest => depthAfter (depth + 1) rest
  | depth, c :: rest => depthAfter (if c = ']' then depth - 1 else depth) rest

namespace Expansion

variable (t u v : Expansion)

theorem append_assoc : (t.append u).append v = t.append (u.append v) := by
  simp [append, Bool.or_assoc]

@[simp] theorem nil_append : append ⟨[], false⟩ t = t := by
  simp [append]

theorem after_eq_append (text : String) : t.after text = append ⟨text.toList, false⟩ t := by
  simp [append, after]

/-- What was read before does not matter for what is read then. -/
theorem text_eq_of_append_eq {u v : Expansion} (h : t.append u = t.append v) : u.text = v.text := by
  have htext : t.text ++ u.text = t.text ++ v.text := congrArg Expansion.text h
  exact List.append_cancel_left htext

end Expansion

/-! ### Pieces -/

/-- What belongs to a bracket that opens before `rest`. -/
inductive Opens : (taken rest : List Char) → Prop where
  | plain {rest : List Char} (hn : ∀ t, rest ≠ '^' :: t) (hc : ∀ t, rest ≠ ']' :: t) :
    Opens [] rest
  | negated {rest : List Char} (hc : ∀ t, rest ≠ ']' :: t) : Opens ['^'] rest
  | literal (rest : List Char) : Opens [']'] rest
  | negatedLiteral (rest : List Char) : Opens ['^', ']'] rest

/-- A bracket looks at what follows only for the two characters that it may take. -/
theorem Opens.change_rest {taken rest other : List Char} (h : Opens taken rest)
    (hother : ∀ c t, other = c :: t → c = '^' ∨ c = ']' → ∃ u, rest = c :: u) :
    Opens taken other := by
  have hkeep : ∀ c, c = '^' ∨ c = ']' → (∀ u, rest ≠ c :: u) → ∀ t, other ≠ c :: t := by
    rintro c hc hrest t rfl
    obtain ⟨u, hu⟩ := hother c t rfl hc
    exact hrest u hu
  cases h with
  | plain hn hc => exact .plain (hkeep _ (Or.inl rfl) hn) (hkeep _ (Or.inr rfl) hc)
  | negated hc => exact .negated (hkeep _ (Or.inr rfl) hc)
  | literal => exact .literal other
  | negatedLiteral => exact .negatedLiteral other

/-- Inside `depth` brackets, a piece before `rest` leaves `after` brackets open and becomes
`result`. -/
inductive Reads : (depth : Nat) → (piece rest : List Char) → (after : Nat) → (result : Expansion) →
    Prop where
  | pair (depth : Nat) (c : Char) (rest : List Char) :
    Reads depth ['\\', c] rest depth (escape depth c)
  | lone (depth : Nat) : Reads depth ['\\'] [] depth ⟨['\\'], false⟩
  | opening (depth : Nat) {taken rest : List Char} (h : Opens taken rest) :
    Reads depth ('[' :: taken) rest (depth + 1) ⟨'[' :: taken, false⟩
  | closing (depth : Nat) (rest : List Char) : Reads depth [']'] rest (depth - 1) ⟨[']'], false⟩
  | lineStart (rest : List Char) : Reads 0 ['^'] rest 0 ⟨"(?:^(?!\\z))".toList, false⟩
  | single {depth : Nat} {c : Char} (rest : List Char) (hb : c ≠ '\\') (ho : c ≠ '[') (hc : c ≠ ']')
      (hs : c = '^' → depth ≠ 0) : Reads depth [c] rest depth ⟨[c], false⟩

/-- There is always a piece to be read. -/
theorem exists_reads (depth : Nat) (c : Char) (s : List Char) :
    ∃ piece rest after result, c :: s = piece ++ rest ∧ Reads depth piece rest after result := by
  by_cases hb : c = '\\'
  · subst hb
    cases s with
    | nil => exact ⟨_, _, _, _, rfl, .lone depth⟩
    | cons d s => exact ⟨_, _, _, _, rfl, .pair depth d s⟩
  by_cases ho : c = '['
  · subst ho
    -- the bracket takes a `^` and then a closing bracket
    by_cases hn : ∃ t, s = '^' :: t
    · obtain ⟨s, rfl⟩ := hn
      by_cases hc : ∃ t, s = ']' :: t
      · obtain ⟨s, rfl⟩ := hc
        exact ⟨_, _, _, _, rfl, .opening depth (.negatedLiteral s)⟩
      · exact ⟨_, _, _, _, rfl, .opening depth (.negated fun t h => hc ⟨t, h⟩)⟩
    · by_cases hc : ∃ t, s = ']' :: t
      · obtain ⟨s, rfl⟩ := hc
        exact ⟨_, _, _, _, rfl, .opening depth (.literal s)⟩
      · exact ⟨_, _, _, _, rfl, .opening depth (.plain (fun t h => hn ⟨t, h⟩) fun t h => hc ⟨t, h⟩)⟩
  by_cases hc : c = ']'
  · subst hc
    exact ⟨_, _, _, _, rfl, .closing depth s⟩
  by_cases hs : c = '^' ∧ depth = 0
  · obtain ⟨rfl, rfl⟩ := hs
    exact ⟨_, _, _, _, rfl, .lineStart s⟩
  · exact ⟨_, _, _, _, rfl, .single s hb ho hc fun h hd => hs ⟨h, hd⟩⟩

namespace Reads

variable {depth after : Nat} {piece rest : List Char} {result : Expansion}

theorem piece_ne_nil (h : Reads depth piece rest after result) : piece ≠ [] := by
  cases h <;> simp

/-- **Reading a pattern** piece by piece. -/
theorem induction {motive : Nat → List Char → Prop} (nil : ∀ depth, motive depth [])
    (cons : ∀ {depth piece rest after result}, Reads depth piece rest after result →
      motive after rest → motive depth (piece ++ rest)) (depth : Nat) (s : List Char) :
    motive depth s := by
  induction hn : s.length using Nat.strong_induction_on generalizing depth s with
  | _ n ih =>
    cases s with
    | nil => exact nil depth
    | cons c s =>
      obtain ⟨piece, rest, after, result, hs, h⟩ := exists_reads depth c s
      rw [hs]
      refine cons h (ih rest.length ?_ after rest rfl)
      have hpiece := List.length_pos_of_ne_nil h.piece_ne_nil
      rw [← hn, hs, List.length_append]
      omega

theorem expandFrom_eq (h : Reads depth piece rest after result) :
    expandFrom depth (piece ++ rest) = result.append (expandFrom after rest) := by
  cases h with
  | pair c => rfl
  | lone => simp [expandFrom, Expansion.append]
  | opening _ ho =>
    cases ho with
    | plain hn hc =>
      rw [List.singleton_append, expandFrom, Expansion.after_eq_append]
      · rfl
      · exact fun t => hn (']' :: t)
      · exact hn
      · exact hc
    | negated hc =>
      rw [List.cons_append, List.singleton_append, expandFrom, Expansion.after_eq_append]
      · rfl
      · exact hc
    | literal => simp [expandFrom, Expansion.after_eq_append]
    | negatedLiteral => simp [expandFrom, Expansion.after_eq_append]
  | closing => simp [expandFrom, Expansion.after_eq_append]
  | lineStart => simp [expandFrom, Expansion.after_eq_append]
  | single _ hb ho hc hs =>
    rw [List.singleton_append, expandFrom, if_neg hc, if_neg fun h => hs h.1 h.2]
    · simp [Expansion.append]
    all_goals simp [hb, ho]

theorem depthAfter_eq (h : Reads depth piece rest after result) :
    depthAfter depth (piece ++ rest) = depthAfter after rest := by
  cases h with
  | pair c => rfl
  | lone => simp [depthAfter]
  | opening _ ho =>
    cases ho with
    | plain hn hc =>
      rw [List.singleton_append, depthAfter]
      · exact fun t => hn (']' :: t)
      · exact hn
      · exact hc
    | negated hc =>
      rw [List.cons_append, List.singleton_append, depthAfter]
      exact hc
    | literal => rfl
    | negatedLiteral => rfl
  | closing => simp [depthAfter]
  | lineStart => simp [depthAfter]
  | single _ hb ho hc hs =>
    rw [List.singleton_append, depthAfter, if_neg hc]
    all_goals simp [hb, ho]

/-- A backslash that waits for its character is the last piece, and after all others nothing is
escaped. -/
theorem escapeClosed_iff (h : Reads depth piece rest after result) :
    EscapeClosed (piece ++ rest) ↔ piece ≠ ['\\'] ∧ EscapeClosed rest := by
  cases h with
  | pair => simp
  | lone => simp [not_escapeClosed_backslash]
  | opening _ ho => cases ho <;> simp [escapeClosed_cons]
  | closing => simp [escapeClosed_cons]
  | lineStart => simp [escapeClosed_cons]
  | single _ hb => simp [escapeClosed_cons, hb]

/-- A piece is read the same way before another rest, unless it waits for what follows. -/
theorem change_rest {other : List Char} (h : Reads depth piece rest after result)
    (hp : piece ≠ ['\\'] ∨ other = [])
    (hother : after = 0 ∨ ∀ c t, other = c :: t → c = '^' ∨ c = ']' → ∃ u, rest = c :: u) :
    Reads depth piece other after result := by
  cases h with
  | pair _ c => exact .pair depth c other
  | lone =>
    obtain rfl := hp.resolve_left fun h => h rfl
    exact .lone depth
  | opening _ ho => exact .opening depth (ho.change_rest (hother.resolve_left (Nat.succ_ne_zero _)))
  | closing => exact .closing depth other
  | lineStart => exact .lineStart other
  | single _ hb ho hc hs => exact .single other hb ho hc hs

/-- No piece becomes shorter, unless it is the mark of an anchored pattern. -/
theorem length_le (h : Reads depth piece rest after result) (hr : result.anchored = false) :
    piece.length ≤ result.text.length := by
  cases h with
  | pair _ c =>
    rw [escape] at hr ⊢
    split_ifs at hr ⊢ <;> simp
  | lone | opening | closing | lineStart | single => simp

end Reads

/-! ### Two patterns one after the other -/

/-- A pattern that leaves nothing escaped is expanded by itself, and what follows by itself inside
the brackets that it leaves open, unless one of them takes the first character of what follows. -/
theorem expandFrom_append {depth : Nat} {p q : List Char} (hp : EscapeClosed p)
    (hq : depthAfter depth p = 0 ∨ ∀ t, q ≠ '^' :: t ∧ q ≠ ']' :: t) :
    expandFrom depth (p ++ q) =
      (expandFrom depth p).append (expandFrom (depthAfter depth p) q) := by
  induction depth, p using Reads.induction with
  | nil depth => simp [expandFrom, depthAfter]
  | @cons depth piece rest after result h ih =>
    obtain ⟨hpiece, hrest⟩ := h.escapeClosed_iff.mp hp
    rw [h.depthAfter_eq] at hq ⊢
    have h' : Reads depth piece (rest ++ q) after result := by
      refine h.change_rest (Or.inl hpiece) ?_
      cases rest with
      | nil =>
        -- the piece is the last one of the first pattern
        refine hq.imp id fun hq c t hc hct => ?_
        rcases hct with rfl | rfl
        · exact absurd hc (hq t).1
        · exact absurd hc (hq t).2
      | cons d rest =>
        right
        rintro c t hc -
        exact ⟨rest, by rw [(List.cons.inj hc).1]⟩
    rw [List.append_assoc, h'.expandFrom_eq, ih hrest hq, h.expandFrom_eq,
      Expansion.append_assoc]

/-- A pattern that holds no mark of an anchored one does not become shorter. -/
theorem length_le_expandFrom {depth : Nat} {s : List Char}
    (h : (expandFrom depth s).anchored = false) : s.length ≤ (expandFrom depth s).text.length := by
  induction depth, s using Reads.induction with
  | nil => exact Nat.zero_le _
  | cons hread ih =>
    rw [hread.expandFrom_eq] at h ⊢
    obtain ⟨hresult, hrest⟩ := Bool.or_eq_false_iff.mp h
    rw [List.length_append, Expansion.append, List.length_append]
    exact Nat.add_le_add (hread.length_le hresult) (ih hrest)

/-- **Expansion is compositional** where a pattern leaves no bracket open and nothing escaped, and
only there. -/
theorem expand_append_iff (p : List Char) :
    (∀ q, expand (p ++ q) = (expand p).append (expand q)) ↔
      EscapeClosed p ∧ depthAfter 0 p = 0 := by
  constructor
  · intro h
    have hp : EscapeClosed p := by
      by_contra hopen
      -- the waiting backslash would make another character of an `h` that follows
      obtain ⟨a, rfl, ha⟩ := exists_of_not_escapeClosed hopen
      have hh := h ['h']
      rw [List.append_assoc, expand, expand, expandFrom_append ha (by simp),
        expandFrom_append ha (by simp), Expansion.append_assoc] at hh
      have htext := Expansion.text_eq_of_append_eq _ hh
      simp [expand, expandFrom, escape, Expansion.append] at htext
    refine ⟨hp, ?_⟩
    by_contra hdepth
    -- inside a bracket `\G` is a character, and outside it is a mark
    have hG := h ['\\', 'G']
    rw [expand, expand, expandFrom_append hp (by simp)] at hG
    have htext := Expansion.text_eq_of_append_eq _ hG
    simp [expand, expandFrom, escape, hdepth, Expansion.append] at htext
  · rintro ⟨hp, hdepth⟩ q
    rw [expand, expand, expandFrom_append hp (Or.inl hdepth), hdepth]
    rfl

/-! ### Patterns that stay as they are -/

/-- A text that starts, inside `depth` brackets, with a piece that does not stay as it is. -/
inductive Rewritten (depth : Nat) : List Char → Prop where
  | hexDigit (rest : List Char) : Rewritten depth ('\\' :: 'h' :: rest)
  | noHexDigit (rest : List Char) : Rewritten depth ('\\' :: 'H' :: rest)
  | lineStart (hd : depth = 0) (rest : List Char) : Rewritten depth ('^' :: rest)
  | searchStart (hd : depth = 0) (rest : List Char) : Rewritten depth ('\\' :: 'G' :: rest)
  | textEnd (hd : depth = 0) (rest : List Char) : Rewritten depth ('\\' :: 'Z' :: rest)

theorem Reads.result_eq {depth after : Nat} {piece rest : List Char} {result : Expansion}
    (h : Reads depth piece rest after result) (hs : ¬ Rewritten depth (piece ++ rest)) :
    result = ⟨piece, false⟩ := by
  cases h with
  | pair _ c =>
    rw [escape]
    split_ifs with hG hh hH hZ
    · obtain ⟨rfl, rfl⟩ := hG
      exact absurd (.searchStart rfl rest) hs
    · subst hh
      exact absurd (.hexDigit rest) hs
    · subst hH
      exact absurd (.noHexDigit rest) hs
    · obtain ⟨rfl, rfl⟩ := hZ
      exact absurd (.textEnd rfl rest) hs
    · rfl
  | lineStart => exact absurd (.lineStart rfl rest) hs
  | lone | opening | closing | single => rfl

/-- A pattern in which no piece is rewritten is its own expansion. -/
theorem expandFrom_eq_self {depth : Nat} {s : List Char}
    (hs : ∀ a b, s = a ++ b → EscapeClosed a → ¬ Rewritten (depthAfter depth a) b) :
    expandFrom depth s = ⟨s, false⟩ := by
  induction depth, s using Reads.induction with
  | nil depth => rfl
  | @cons depth piece rest after result h ih =>
    have hrest : expandFrom after rest = ⟨rest, false⟩ := by
      refine ih fun a b hab ha hb => ?_
      -- a place of the rest is a place of the pattern
      have hpiece : piece ≠ ['\\'] := by
        rintro rfl
        cases h with
        | lone =>
          obtain ⟨-, rfl⟩ := List.append_eq_nil_iff.mp hab.symm
          cases hb
        | single _ hc => exact hc rfl
      have h' : Reads depth piece a after result := by
        refine h.change_rest (Or.inl hpiece) (Or.inr ?_)
        rintro c t rfl -
        exact ⟨t ++ b, hab⟩
      refine hs (piece ++ a) b (by rw [hab, List.append_assoc]) ?_ ?_
      · exact h'.escapeClosed_iff.mpr ⟨hpiece, ha⟩
      · rwa [h'.depthAfter_eq]
    rw [h.expandFrom_eq, hrest, h.result_eq (hs [] _ rfl escapeClosed_nil)]
    rfl

/-- A piece that is rewritten becomes longer, unless it is the mark of an anchored pattern. -/
theorem Rewritten.exists_reads {depth : Nat} {s : List Char} (hs : Rewritten depth s) :
    ∃ piece rest after result, s = piece ++ rest ∧ Reads depth piece rest after result ∧
      (result.anchored = true ∨ piece.length < result.text.length) := by
  cases hs with
  | hexDigit rest => exact ⟨_, _, _, _, rfl, .pair depth 'h' rest, by simp [escape]⟩
  | noHexDigit rest => exact ⟨_, _, _, _, rfl, .pair depth 'H' rest, by simp [escape]⟩
  | lineStart hd rest =>
    subst hd
    exact ⟨_, _, _, _, rfl, .lineStart rest, by simp⟩
  | searchStart hd rest => exact ⟨_, _, _, _, rfl, .pair depth 'G' rest, by simp [escape, hd]⟩
  | textEnd hd rest => exact ⟨_, _, _, _, rfl, .pair depth 'Z' rest, by simp [escape, hd]⟩

theorem Rewritten.length_lt {depth : Nat} {s : List Char} (hs : Rewritten depth s)
    (h : (expandFrom depth s).anchored = false) : s.length < (expandFrom depth s).text.length := by
  obtain ⟨piece, rest, after, result, rfl, hread, hresult⟩ := hs.exists_reads
  rw [hread.expandFrom_eq] at h ⊢
  obtain ⟨hanchored, hrest⟩ := Bool.or_eq_false_iff.mp h
  have hpiece := hresult.resolve_left (by simp [hanchored])
  have hle := length_le_expandFrom hrest
  rw [Expansion.append, List.length_append, List.length_append]
  omega

/-- **A pattern stays as it is** if no piece of it is rewritten, and only then. -/
theorem expand_eq_self_iff (s : List Char) :
    expand s = ⟨s, false⟩ ↔
      ∀ a b, s = a ++ b → EscapeClosed a → ¬ Rewritten (depthAfter 0 a) b := by
  refine ⟨?_, expandFrom_eq_self⟩
  rintro h a b rfl ha hb
  have hq : depthAfter 0 a = 0 ∨ ∀ t, b ≠ '^' :: t ∧ b ≠ ']' :: t := by
    cases hb <;> simp_all
  rw [expand, expandFrom_append ha hq] at h
  -- no part became shorter, and the part at `b` became longer
  obtain ⟨hta, htb⟩ := Bool.or_eq_false_iff.mp (congrArg Expansion.anchored h)
  have htext := congrArg (fun t => t.text.length) h
  simp only [Expansion.append, List.length_append] at htext
  have hla := length_le_expandFrom hta
  have hlb := hb.length_lt htb
  omega

/-- **Patterns are expanded by parts.** Behind a pattern that leaves no bracket open and nothing
escaped, whatever follows is expanded by itself, and the texts and the marks are put together; behind
any other pattern some text is not. And a pattern is its own expansion, without the mark, if no `^`
stands outside of brackets in it, no `\G` or `\Z` does, and no `\h` or `\H` anywhere, where a
character that is escaped or taken by a bracket counts for nothing else; no other pattern is. -/
theorem expand_by_parts (p source : List Char) :
    ((∀ q, expand (p ++ q) = (expand p).append (expand q)) ↔
        EscapeClosed p ∧ depthAfter 0 p = 0) ∧
      (expand source = ⟨source, false⟩ ↔
        ∀ a b, source = a ++ b → EscapeClosed a → ¬ Rewritten (depthAfter 0 a) b) :=
  ⟨expand_append_iff p, expand_eq_self_iff source⟩

example : expand "[]^\\]^]^\\\\h".toList = ⟨"[]^\\]^](?:^(?!\\z))\\\\h".toList, false⟩ := by decide

end Tincture.Pattern.Dialect
