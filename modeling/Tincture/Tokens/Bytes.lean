import Tincture.Grammar.BackReference
import Tincture.Grammar.ScopeName
import Tincture.Pattern.Basic
import Tincture.Text.Bytes
import Tincture.Tokens.Line

/-!
# Captured groups in bytes

From outside, the groups that a match captured are given by byte offsets into a line. A group whose
offsets do not cut out whole characters has no text.
-/

namespace Tincture.ByteCaptures

/-- The text of a group, given the spans of all groups in bytes. -/
def text (line : List Char) (spans : List (Option Span)) (n : Nat) : List Char :=
  match spans[n]? with
  | some (some s) => (Text.sliceBytes? line s.start s.stop).getD []
  | _ => []

/-- The scopes that a name stands for. -/
def expand (line : List Char) (spans : List (Option Span)) (name : String) : List String :=
  ScopeName.expand (text line spans) name

/-- An end pattern completed with what the groups captured. -/
def resolve (options : EngineOptions) (line : List Char) (spans : List (Option Span))
    (source : String) : FollowPattern :=
  (FollowRule.backReferenced source).resolve options (text line spans)

end Tincture.ByteCaptures
