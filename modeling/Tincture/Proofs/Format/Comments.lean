import Tincture.Proofs.Format.Collapsing
import Tincture.Proofs.Format.ImportItems
import Tincture.Proofs.Format.Wrapping

/-!
# Comments of a line

Braces are counted on a line from left to right, and not in strings and behind a `//`. `Scan` is what
is known of the characters before the next one, and the braces are counted by it
(`depthAfter_eq_braces`). The characters behind a `//` are the comment of a line (`commentOf`), the
others its code (`codeOf`).

White space and commas are between the words of a line; the other characters are `solid`. The solid
characters of a comment do not depend on how the line is spaced (`ignoresSpacing_comment`).
-/

namespace Tincture.Format

open Text

/-! ### Reading a line -/

/-- What the characters of a line up to some place leave open. -/
inductive Scan where
  | code
  /-- Behind a slash in code. -/
  | slash
  | string
  /-- Behind a backslash in a string. -/
  | escape
  | comment
  deriving DecidableEq, Repr

namespace Scan

/-- What is open behind one more character. -/
def step : Scan → Char → Scan
  | code, c => if c = '"' then string else if c = '/' then slash else code
  | slash, c => if c = '"' then string else if c = '/' then comment else code
  | string, c => if c = '\\' then escape else if c = '"' then code else string
  | escape, _ => string
  | comment, _ => comment

/-- What is open behind a text. -/
def after (st : Scan) (s : List Char) : Scan :=
  s.foldl step st

/-- The characters of a text that are in a comment. -/
def commented : Scan → List Char → List Char
  | _, [] => []
  | st, c :: s => if st = comment then c :: s else commented (st.step c) s

/-- The characters of a text up to a comment. -/
def uncommented : Scan → List Char → List Char
  | _, [] => []
  | st, c :: s => if st = comment then [] else c :: uncommented (st.step c) s

/-- How many braces are open behind a text, when they are counted in code only. -/
def braces : Scan → (depth : Nat) → List Char → Nat
  | _, depth, [] => depth
  | st, depth, c :: s =>
    if (st = code ∨ st = slash) ∧ c = '\x7b' then braces (st.step c) (depth + 1) s
    else if (st = code ∨ st = slash) ∧ c = '\x7d' then braces (st.step c) (depth - 1) s
    else braces (st.step c) depth s

variable {st : Scan} {s t : List Char}

@[simp] theorem after_nil (st : Scan) : st.after [] = st := rfl

@[simp] theorem after_cons (st : Scan) (c : Char) (s : List Char) :
    st.after (c :: s) = (st.step c).after s := rfl

theorem after_append (st : Scan) (s t : List Char) :
    st.after (s ++ t) = (st.after s).after t :=
  List.foldl_append

/-- A comment goes on to the end. -/
@[simp] theorem after_comment (s : List Char) : comment.after s = comment := by
  induction s with
  | nil => rfl
  | cons c s ih => exact ih

@[simp] theorem commented_comment (s : List Char) : comment.commented s = s := by
  cases s <;> rfl

@[simp] theorem uncommented_comment (s : List Char) : comment.uncommented s = [] := by
  cases s <;> rfl

theorem commented_cons (h : st ≠ comment) (c : Char) (s : List Char) :
    st.commented (c :: s) = (st.step c).commented s :=
  if_neg h

theorem uncommented_cons (h : st ≠ comment) (c : Char) (s : List Char) :
    st.uncommented (c :: s) = c :: (st.step c).uncommented s :=
  if_neg h

theorem uncommented_append_commented (st : Scan) (s : List Char) :
    st.uncommented s ++ st.commented s = s := by
  induction s generalizing st with
  | nil => rfl
  | cons c s ih =>
    by_cases hst : st = comment
    · rw [hst, uncommented_comment, commented_comment, List.nil_append]
    · rw [uncommented_cons hst, commented_cons hst, List.cons_append, ih]

theorem commented_append (st : Scan) (s t : List Char) :
    st.commented (s ++ t) = st.commented s ++ (st.after s).commented t := by
  induction s generalizing st with
  | nil => rfl
  | cons c s ih =>
    by_cases hst : st = comment
    · simp only [hst, commented_comment, after_comment]
    · rw [List.cons_append, commented_cons hst, commented_cons hst, ih, after_cons]

/-- There is no comment if none is open behind the text. -/
theorem commented_eq_nil (h : st.after s ≠ comment) : st.commented s = [] := by
  induction s generalizing st with
  | nil => rfl
  | cons c s ih =>
    have hst : st ≠ comment := by
      rintro rfl
      exact h (after_comment _)
    rw [commented_cons hst]
    exact ih h

/-! ### Braces -/

theorem braces_comment (depth : Nat) (s : List Char) : comment.braces depth s = depth := by
  induction s with
  | nil => rfl
  | cons c s ih => simpa [braces, step] using ih

/-- A slash that no other one follows is a character as any other. -/
theorem braces_slash (h : s.head? ≠ some '/') (depth : Nat) :
    slash.braces depth s = code.braces depth s := by
  cases s with
  | nil => rfl
  | cons c s =>
    have hc : c ≠ '/' := by simpa using h
    simp [braces, step, hc]

end Scan

/-- **The scan of a line** is the one by which its braces are counted. -/
theorem depthAfter_eq_braces (inString : Bool) (depth : Nat) (s : List Char) :
    depthAfter inString depth s = (if inString then Scan.string else .code).braces depth s := by
  fun_induction depthAfter inString depth s with
  | case1 inString depth => cases inString <;> rfl
  | case2 depth => rfl
  | case3 depth c rest ih => simpa [Scan.braces, Scan.step] using ih
  | case4 depth rest _ ih => simpa [Scan.braces, Scan.step] using ih
  | case5 depth c rest hescape hquote ih => simpa [Scan.braces, Scan.step, hescape, hquote] using ih
  | case6 depth rest ih => simpa [Scan.braces, Scan.step] using ih
  | case7 depth c rest _ hslash =>
    -- the second slash opens the comment
    obtain ⟨rfl, hnext⟩ := hslash
    obtain ⟨more, rfl⟩ := List.head?_eq_some_iff.mp hnext
    simp [Scan.braces, Scan.step, Scan.braces_comment]
  | case8 depth rest _ _ ih => simpa [Scan.braces, Scan.step] using ih
  | case9 depth rest _ _ _ ih => simpa [Scan.braces, Scan.step] using ih
  | case10 depth c rest hquote hslash hopen hclose ih =>
    by_cases hc : c = '/'
    · subst hc
      have hnext : rest.head? ≠ some '/' := fun hnext => hslash ⟨rfl, hnext⟩
      simpa [Scan.braces, Scan.step, Scan.braces_slash hnext] using ih
    · simpa [Scan.braces, Scan.step, hquote, hopen, hclose, hc] using ih

/-! ### Comments and code -/

/-- What stands behind the `//` of a line. -/
def commentOf (line : List Char) : List Char :=
  Scan.code.commented line

/-- A line up to and with its `//`. -/
def codeOf (line : List Char) : List Char :=
  Scan.code.uncommented line

theorem codeOf_append_commentOf (line : List Char) : codeOf line ++ commentOf line = line :=
  Scan.uncommented_append_commented .code line

example : commentOf "f(\"//\") // a note".toList = " a note".toList := by decide

theorem commentOf_suffix (line : List Char) : commentOf line <:+ line :=
  ⟨codeOf line, codeOf_append_commentOf line⟩

namespace Scan

variable {st : Scan} {s : List Char}

theorem slash_mem_of_step_eq_comment {c : Char} (hst : st ≠ comment) (h : st.step c = comment) :
    c = '/' := by
  cases st with
  | comment => exact absurd rfl hst
  | slash =>
    simp only [step] at h
    split_ifs at h with hquote hslash
    exact hslash
  | code => simp only [step] at h; split_ifs at h
  | string => simp only [step] at h; split_ifs at h
  | escape => cases h

/-- A comment starts behind a slash that is code. -/
theorem slash_mem_uncommented (hst : st ≠ comment) (h : st.after s = comment) :
    '/' ∈ st.uncommented s := by
  induction s generalizing st with
  | nil => exact absurd h hst
  | cons c s ih =>
    rw [uncommented_cons hst]
    by_cases hstep : st.step c = comment
    · exact List.mem_cons.mpr (.inl (slash_mem_of_step_eq_comment hst hstep).symm)
    · exact List.mem_cons_of_mem c (ih hstep h)

/-! ### Texts without quotation marks -/

/-- Without quotation marks, what is outside of strings stays outside. -/
theorem after_outside (hquote : '"' ∉ s) (h : st ≠ string ∧ st ≠ escape) :
    st.after s ≠ string ∧ st.after s ≠ escape := by
  induction s generalizing st with
  | nil => exact h
  | cons c s ih =>
    obtain ⟨hc, hs⟩ := List.ne_and_not_mem_of_not_mem_cons hquote
    refine ih hs ?_
    cases st with
    | string => exact absurd rfl h.1
    | escape => exact absurd rfl h.2
    | comment => exact h
    | code => by_cases hslash : c = '/' <;> simp [step, hc.symm, hslash]
    | slash => by_cases hslash : c = '/' <;> simp [step, hc.symm, hslash]

/-- What is in a string stays in it. -/
theorem after_inside (hquote : '"' ∉ s) (h : st = string ∨ st = escape) :
    st.after s = string ∨ st.after s = escape := by
  induction s generalizing st with
  | nil => exact h
  | cons c s ih =>
    obtain ⟨hc, hs⟩ := List.ne_and_not_mem_of_not_mem_cons hquote
    refine ih hs ?_
    rcases h with rfl | rfl
    · by_cases hescape : c = '\\' <;> simp [step, hc.symm, hescape]
    · exact .inl rfl

theorem commented_inside (hquote : '"' ∉ s) (h : st = string ∨ st = escape) :
    st.commented s = [] := by
  refine commented_eq_nil fun hcomment => ?_
  rcases after_inside hquote h with hafter | hafter <;> simp [hafter] at hcomment

end Scan

/-! ### Solid characters -/

/-- Whether a character is more than what stands between words. -/
def isSolid (c : Char) : Bool :=
  !isBlank c && c != ','

/-- A text without white space and commas. -/
def solid (s : List Char) : List Char :=
  s.filter isSolid

@[simp] theorem solid_nil : solid [] = [] := rfl

@[simp] theorem solid_append (s t : List Char) : solid (s ++ t) = solid s ++ solid t :=
  List.filter_append s t

theorem solid_eq_nil_iff {s : List Char} : solid s = [] ↔ ∀ c ∈ s, isSolid c = false := by
  simp [solid, List.filter_eq_nil_iff]

theorem isSolid_of_isBlank {c : Char} (h : isBlank c = true) : isSolid c = false := by
  simp [isSolid, h]

theorem solid_of_forall_isBlank {s : List Char} (h : ∀ c ∈ s, isBlank c = true) : solid s = [] :=
  solid_eq_nil_iff.mpr fun c hc => isSolid_of_isBlank (h c hc)

theorem solid_flatMap (f : List Char → List Char) (parts : List (List Char)) :
    solid (parts.flatMap f) = parts.flatMap fun part => solid (f part) :=
  List.filter_flatMap

theorem solid_flatten (parts : List (List Char)) : solid parts.flatten = parts.flatMap solid := by
  rw [← List.flatMap_id, solid_flatMap]
  rfl

theorem ne_of_not_isSolid {c : Char} (h : isSolid c = false) : c ≠ '"' ∧ c ≠ '/' := by
  constructor <;> rintro rfl <;> exact absurd h (by decide)

theorem solid_codeOf_append_commentOf (line : List Char) :
    solid (codeOf line) ++ solid (commentOf line) = solid line := by
  rw [← solid_append, codeOf_append_commentOf]

theorem solid_commentOf_sublist (line : List Char) :
    (solid (commentOf line)).Sublist (solid line) :=
  (commentOf_suffix line).sublist.filter isSolid

theorem solid_filter {p : Char → Bool} (hp : ∀ c, isSolid c = true → p c = true) (s : List Char) :
    solid (s.filter p) = solid s := by
  rw [solid, List.filter_filter]
  refine List.filter_congr fun c _ => ?_
  cases hc : isSolid c with
  | false => rfl
  | true => simp [hp c hc]

namespace Scan

variable {st : Scan} {s : List Char}

theorem solid_commented_eq_nil (h : solid s = []) (st : Scan) : solid (st.commented s) = [] := by
  rw [solid_eq_nil_iff] at h ⊢
  intro c hc
  refine h c ?_
  rw [← uncommented_append_commented st s]
  exact List.mem_append_right _ hc

/-- White space and commas lead back from a slash to code. -/
theorem after_of_solid_eq_nil (h : solid s = []) (hst : st = code ∨ st = slash ∧ s ≠ []) :
    st.after s = code := by
  induction s generalizing st with
  | nil => exact hst.resolve_right fun hslash => hslash.2 rfl
  | cons c s ih =>
    obtain ⟨hc, hs⟩ := List.forall_mem_cons.mp (solid_eq_nil_iff.mp h)
    obtain ⟨hquote, hslash⟩ := ne_of_not_isSolid hc
    refine ih (solid_eq_nil_iff.mpr hs) (.inl ?_)
    rcases hst with rfl | ⟨rfl, -⟩ <;> simp [step, hquote, hslash]

/-- A second blank changes nothing. -/
theorem step_blank_blank (st : Scan) : (st.step ' ').step ' ' = st.step ' ' := by
  cases st <;> rfl

/-- A blank that is left out stands behind another one, so nothing is open behind it that was not open
before it. -/
theorem solid_commented_collapseFrom (inString inRaw afterBlank : Bool)
    (h : afterBlank = true → st.step ' ' = st) :
    solid (st.commented (collapseFrom inString inRaw afterBlank s)) = solid (st.commented s) := by
  induction s generalizing st inString inRaw afterBlank with
  | nil => rfl
  | cons c s ih =>
    by_cases hst : st = comment
    · rw [hst, commented_comment, commented_comment]
      exact filter_collapseFrom (by decide) inString inRaw afterBlank (c :: s)
    rcases collapseFrom_cons inString inRaw afterBlank c with ⟨q, r, b, hb, hkeep⟩ | ⟨rfl, rfl, hdrop⟩
    · have hstep : b = true → (st.step c).step ' ' = st.step c := by
        intro htrue
        have hc : c = ' ' := by
          by_contra hne
          simp [hb hne] at htrue
        rw [hc, step_blank_blank]
      rw [hkeep, commented_cons hst, commented_cons hst]
      exact ih q r b hstep
    · rw [hdrop, commented_cons hst, h rfl]
      exact ih inString inRaw true h

end Scan

/-- **Runs of blanks** do not matter to the comment of a line. -/
theorem solid_commentOf_collapseSpaces (line : List Char) :
    solid (commentOf (collapseSpaces line)) = solid (commentOf line) :=
  Scan.solid_commented_collapseFrom false false false (by simp)

/-- White space and commas before a text do not matter, nor do they behind it. -/
theorem commentOf_append_left {lead : List Char} (h : solid lead = []) (s : List Char) :
    commentOf (lead ++ s) = commentOf s := by
  have hlead : Scan.code.after lead = .code := Scan.after_of_solid_eq_nil h (.inl rfl)
  rw [commentOf, Scan.commented_append, hlead, Scan.commented_eq_nil (by simp [hlead])]
  rfl

theorem solid_commentOf_append_right {trail : List Char} (h : solid trail = []) (s : List Char) :
    solid (commentOf (s ++ trail)) = solid (commentOf s) := by
  rw [commentOf, Scan.commented_append, solid_append, Scan.solid_commented_eq_nil h,
    List.append_nil]
  rfl

/-! ### Spacing -/

/-- What is read off a text does not depend on how it is spaced. -/
structure IgnoresSpacing (g : List Char → List Char) : Prop where
  nil : g [] = []
  lead : ∀ lead s, (∀ c ∈ lead, isBlank c = true) → g (lead ++ s) = g s
  trail : ∀ s trail, (∀ c ∈ trail, isBlank c = true) → g (s ++ trail) = g s
  collapse : ∀ s, g (collapseSpaces s) = g s

theorem ignoresSpacing_solid : IgnoresSpacing solid where
  nil := rfl
  lead lead s h := by rw [solid_append, solid_of_forall_isBlank h, List.nil_append]
  trail s trail h := by rw [solid_append, solid_of_forall_isBlank h, List.append_nil]
  collapse s := filter_collapseSpaces (by decide) s

theorem ignoresSpacing_comment : IgnoresSpacing fun line => solid (commentOf line) where
  nil := rfl
  lead lead s h := by rw [commentOf_append_left (solid_of_forall_isBlank h)]
  trail s trail h := solid_commentOf_append_right (solid_of_forall_isBlank h) s
  collapse := solid_commentOf_collapseSpaces

namespace IgnoresSpacing

variable {g : List Char → List Char}

theorem trim_eq (h : IgnoresSpacing g) (s : List Char) : g (trim s) = g s := by
  obtain ⟨lead, trail, hlead, htrail, hs⟩ := exists_eq_append_trim s
  conv_rhs => rw [hs]
  rw [h.trail _ trail htrail, h.lead lead _ hlead]

theorem stripReturn_eq (h : IgnoresSpacing g) (s : List Char) : g (stripReturn s) = g s := by
  have htrim : trim (stripReturn s) = trim s := by
    rw [Text.trim_eq, trimEnd_stripReturn, ← Text.trim_eq]
  rw [← h.trim_eq, htrim, h.trim_eq]

end IgnoresSpacing

/-! ### Lines with comments -/

/-- Whether a comment is open at the end of a line. -/
def hasComment (line : List Char) : Bool :=
  Scan.code.after line == .comment

theorem hasComment_eq_true_iff {line : List Char} :
    hasComment line = true ↔ Scan.code.after line = .comment :=
  beq_iff_eq

theorem hasComment_eq_false_iff {line : List Char} :
    hasComment line = false ↔ Scan.code.after line ≠ .comment :=
  beq_eq_false_iff_ne

theorem commentOf_eq_nil {line : List Char} (h : hasComment line = false) : commentOf line = [] :=
  Scan.commented_eq_nil (hasComment_eq_false_iff.mp h)

/-- The slashes that open a comment are solid code. -/
theorem hasComment_of_solid_codeOf {line : List Char} (h : solid (codeOf line) = []) :
    hasComment line = false := by
  rw [hasComment_eq_false_iff]
  intro hcomment
  have hslash := solid_eq_nil_iff.mp h _ (Scan.slash_mem_uncommented (by simp) hcomment)
  exact (ne_of_not_isSolid hslash).2 rfl

theorem solid_codeOf_eq_nil_iff {line : List Char} :
    solid (codeOf line) = [] ↔ solid line = [] := by
  rw [← solid_codeOf_append_commentOf line, List.append_eq_nil_iff, iff_self_and]
  intro h
  rw [commentOf_eq_nil (hasComment_of_solid_codeOf h), solid_nil]

theorem hasComment_append_right {trail : List Char} (h : solid trail = []) (s : List Char) :
    hasComment (s ++ trail) = hasComment s := by
  rw [Bool.eq_iff_iff, hasComment_eq_true_iff, hasComment_eq_true_iff, Scan.after_append]
  refine ⟨fun hcomment => ?_, fun hcomment => by rw [hcomment, Scan.after_comment]⟩
  -- there is no slash in white space
  by_contra hs
  have hslash := Scan.slash_mem_uncommented hs hcomment
  rw [solid_eq_nil_iff, ← Scan.uncommented_append_commented (Scan.code.after s) trail] at h
  exact (ne_of_not_isSolid (h _ (List.mem_append_left _ hslash))).2 rfl

theorem hasComment_trim (s : List Char) : hasComment (trim s) = hasComment s := by
  obtain ⟨lead, trail, hlead, htrail, hs⟩ := exists_eq_append_trim s
  have hcode : Scan.code.after lead = .code :=
    Scan.after_of_solid_eq_nil (solid_of_forall_isBlank hlead) (.inl rfl)
  conv_rhs => rw [hs]
  rw [hasComment_append_right (solid_of_forall_isBlank htrail), hasComment, hasComment,
    Scan.after_append, hcode]

end Tincture.Format
