/-
Engines of regular expressions.

An engine compiles source texts to matchers.  Those of the built-in classes have to compile, or
there would be no leaves for them.  What else is asked of an engine is stated where it is needed:
`LeftmostFirst` says, of one source text, that its matches are those which its expression prefers,
and `LeavesIgnoreFront` that the built-in classes contain no condition on what is in front.
-/
import TextGrammar.Pattern
import TextGrammar.Pattern.BuiltIn
import TextGrammar.Pattern.Preference

namespace TextGrammar

structure Engine where
  compile? : String → Option Matcher
  builtIn : BuiltIn → Matcher
  /-- The matcher of a built-in class is what its source text compiles to. -/
  compile?_builtIn (l : BuiltIn) : compile? l.source = some (builtIn l)

namespace Engine

/-- The pattern with a given source text. -/
def pattern? (E : Engine) (source : String) : Option Pattern :=
  (E.compile? source).map fun x => ⟨source, x⟩

def leaf (E : Engine) (l : BuiltIn) : Pattern := ⟨l.source, E.builtIn l⟩

theorem pattern?_source (E : Engine) (l : BuiltIn) : E.pattern? l.source = some (E.leaf l) :=
  congrArg (Option.map fun x => Pattern.mk l.source x) (E.compile?_builtIn l)

/-- What matches a source text is what its expression prefers.  Engines keep to this as long as
every round of a repetition consumes something; they differ on rounds that do not. -/
def LeftmostFirst (E : Engine) (source : String) : Prop :=
  ∀ x e, E.compile? source = some x → Expression.ofSource? source.toList = some e →
    ∀ before t, x.matched? before t = e.preferred? before t

/-- What stands in front of a place does not matter to the built-in classes. -/
def LeavesIgnoreFront (E : Engine) : Prop :=
  ∀ l before before' t, (E.leaf l).matched? before t = (E.leaf l).matched? before' t

variable {E : Engine}

theorem LeftmostFirst.matched?_eq {source : String} {p : Pattern} {e : Expression}
    (hE : E.LeftmostFirst source) (hp : E.pattern? source = some p)
    (he : Expression.ofSource? source.toList = some e) (before : Option Char) (t : Text) :
    p.matched? before t = e.preferred? before t := by
  obtain ⟨x, hx, rfl⟩ := Option.map_eq_some_iff.mp hp
  exact hE x e hx he before t

theorem LeftmostFirst.matched?_leaf {l : BuiltIn} (hE : E.LeftmostFirst l.source)
    (before : Option Char) (t : Text) :
    (E.leaf l).matched? before t = l.expression.preferred? before t :=
  hE.matched?_eq (E.pattern?_source l) l.ofSource?_source before t

end Engine
end TextGrammar
