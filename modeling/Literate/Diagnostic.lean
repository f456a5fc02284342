import Literate.Script.Token

/-!
# Diagnostics

A diagnostic is a problem of a source file that does not stop its reading. A report is the
labelled form in which problems of every kind are shown.
-/

namespace Literate

/-- How serious a problem is, from an internal fault down to a hint. -/
inductive Severity where
  | bug
  | error
  | warning
  | note
  | help
deriving DecidableEq

namespace Severity

def word : Severity → String
  | .bug => "bug"
  | .error => "error"
  | .warning => "warning"
  | .note => "note"
  | .help => "help"

def isError : Severity → Bool
  | .bug | .error => true
  | .warning | .note | .help => false

end Severity

structure Diagnostic where
  severity : Severity
  message : String
  span : Span
  fileId : Nat
  notes : List String
deriving DecidableEq

inductive LabelStyle where
  | primary
  | secondary
deriving DecidableEq

structure Label where
  style : LabelStyle
  fileId : Nat
  span : Span
  message : String
deriving DecidableEq

structure Report where
  severity : Severity
  code : Option String
  message : String
  labels : List Label
  notes : List String
deriving DecidableEq

namespace Diagnostic

def isError (d : Diagnostic) : Bool := d.severity.isError

def display (d : Diagnostic) : String := d.severity.word ++ ": " ++ d.message

/-- The report of a diagnostic: its span is the only label. -/
def report (d : Diagnostic) : Report where
  severity := d.severity
  code := none
  message := d.message
  labels := [⟨.primary, d.fileId, d.span, ""⟩]
  notes := d.notes

end Diagnostic

end Literate
