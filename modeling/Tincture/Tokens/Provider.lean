import Tincture.Theme.Display
import Tincture.Tokens.Line

/-!
# Token providers

An editor asks a provider for the tokens of one line at a time, and hands back the stack that the
line before ended with. A provider never fails: without a grammar a line is one token.
-/

namespace Tincture

/-- A token as an editor sees it. -/
structure StyledToken where
  column : Nat
  /-- The scope that is shown; the empty one stands for the usual colours. -/
  scope : String
  style : Option Style
  /-- All scopes, the outermost first. -/
  scopes : List String
  deriving DecidableEq, Repr

/-- The tokens of a line, and the stack that it ends with. -/
structure ProviderTokens where
  tokens : List StyledToken
  stack : RuleStack

/-- What an editor asks for tokens. -/
structure TokensProvider where
  initial : RuleStack := RuleStack.initial
  tokenize : List Char → RuleStack → ProviderTokens

/-- A token under a theme: the scope that the theme colours first. Without a theme it is the
innermost scope, and has no style. -/
def Token.styled (theme : Option Theme) (t : Token) : StyledToken :=
  match theme with
  | some theme => match DisplayToken.resolve t.scopes theme with
    | some d => ⟨t.column, d.scope, some d.style, t.scopes⟩
    | none => ⟨t.column, "", none, t.scopes⟩
  | none => ⟨t.column, t.scopes.getLast?.getD "", none, t.scopes⟩

namespace TokensProvider

/-- The provider of a grammar, under a theme if there is one. -/
def ofGrammar (g : Grammar) (theme : Option Theme) : TokensProvider where
  tokenize line stack :=
    let t := tokenizeLine g line stack
    ⟨t.tokens.map (Token.styled theme), t.stack⟩

/-- The provider that knows no grammar. -/
def plain : TokensProvider where
  tokenize _ stack := ⟨[⟨0, "", none, []⟩], stack⟩

end TokensProvider

end Tincture
