import BatchCompiler.Regex.Bundled
import BatchCompiler.Text.CodePage

/-!
# Tools for text

Two kinds of work on texts are not the compiler's own: reading bytes in an encoding, and finding regular
expressions.  A toolkit says who does them; the bundled one does as a rule.
-/

namespace BatchCompiler.Text

/-- **Who does the work on texts** that is not the compiler's own. -/
class Toolkit where
  decoder : Decoder
  engine : Regex.Engine

/-- The bundled tools. -/
instance Toolkit.bundled : Toolkit := ⟨.bundled, .bundled⟩

end BatchCompiler.Text
