import Literate.Text.Digits
import Literate.Toml.Token

/-!
# Faults of TOML documents

A fault is shown with the line that it lies on and carets below the place.
-/

namespace Literate.Toml

def FaultCause.message (known : List Text) : FaultCause → Text
  | .strayCharacter _ => "unexpected character or text without end".toList
  | .expected what => "expected ".toList ++ what.toList
  | .duplicateKey key => "duplicate key `".toList ++ key ++ ['`']
  | .unknownField key =>
      "unknown field `".toList ++ key ++ "`, expected one of ".toList ++
        List.intercalate [',', ' '] (known.map fun k => '`' :: k ++ ['`'])
  | .wrongForm key wanted => '`' :: key ++ "` has to be ".toList ++ wanted.toList

namespace Fault

def span (document : Text) (fault : Fault) : Span :=
  fault.place.getD ⟨Text.byteSize document, Text.byteSize document⟩

/-- The report of a fault in a document. There is at least one caret, and none beyond the
end of the line but for that one. -/
def message (known : List Text) (document : Text) (fault : Fault) : Text :=
  let span := fault.span document
  let lead := List.splitOn '\n' (Text.takeBytes span.start document)
  let number := Text.decimal lead.length
  let column := (lead.getLastD []).length
  let line := ((List.splitOn '\n' document)[lead.length - 1]?).getD []
  let carets := max 1 (min (span.stop - span.start) (Text.byteSize line - column))
  let gutter := List.replicate (number.length + 1) ' '
  "TOML parse error at line ".toList ++ number ++
    ", column ".toList ++ Text.decimal (column + 1) ++ ['\n'] ++
    gutter ++ ['|', '\n'] ++
    number ++ " | ".toList ++ line ++ ['\n'] ++
    gutter ++ ['|'] ++ List.replicate (column + 1) ' ' ++ List.replicate carets '^' ++ ['\n'] ++
    fault.cause.message known ++ ['\n']

end Fault

end Literate.Toml
