import ContentPolicy.Text.Basic
import ContentPolicy.Text.WordTable

namespace ContentPolicy.Text

/-- Letters and numbers of all scripts, and the underscore. -/
def isWord (c : Char) : Bool :=
  if isAscii c then c.isAlphanum || c = '_' else inRanges wordRanges c

end ContentPolicy.Text
