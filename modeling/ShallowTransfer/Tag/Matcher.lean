import ShallowTransfer.Error
import ShallowTransfer.Text.Case
import ShallowTransfer.Text.Words

/-!
Part-of-speech tags and the matchers that rules and grammars describe them by. A matcher stands for
any tag, for one whole tag, or for all tags that begin with a stem, whatever their case.
-/

namespace ShallowTransfer

/-- A part-of-speech tag: an EAGLES tag like `ncfs000`, or the category `n` it begins with. -/
abbrev Tag := String

/-- The category of a tag: its first character, in lower case if it is an ASCII letter. -/
def Tag.category (tag : Tag) : Option Char :=
  tag.toList.head?.map Char.toLower

/-- A description of tags. -/
inductive TagMatcher where
  | any
  | whole (tag : Tag)
  | stem (start : String)
deriving Repr, DecidableEq

namespace TagMatcher

/-- Reads a matcher: `*` is any tag, `=` goes before a whole tag, and all else is a stem. -/
def parse (s : String) : Except ConfigError TagMatcher :=
  match Text.trimChars s.toList with
  | [] => .error (.invalidTagMatcher "")
  | ['='] => .error (.invalidTagMatcher "=")
  | ['*'] => .ok .any
  | '=' :: tag => .ok (.whole (String.ofList tag))
  | text => .ok (.stem (Text.lowercase (String.ofList text)))

/-- The written form of a matcher. -/
def render : TagMatcher → String
  | .any => "*"
  | .whole tag => "=" ++ tag
  | .stem start => start

/-- Whether the matcher describes the tag. -/
def accepts : TagMatcher → Tag → Bool
  | .any, _ => true
  | .whole t, tag => t = tag
  | .stem start, tag => start.toList.isPrefixOf (Text.lowercase tag).toList

/-- Whether the matcher describes the tag as a whole, and not just a category of tags. -/
def acceptsWhole : TagMatcher → Tag → Bool
  | .any, _ => false
  | .whole t, tag => t = tag
  | .stem start, tag => Text.lowercase tag = start

end TagMatcher

/-- Reads all matchers of a list; the first fault is reported. -/
def parseMatchers (texts : List String) : Except ConfigError (List TagMatcher) :=
  texts.mapM TagMatcher.parse

end ShallowTransfer
