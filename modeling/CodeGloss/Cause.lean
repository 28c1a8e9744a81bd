import CodeGloss.Files.Disk
import CodeGloss.Service.Failure

/-!
# Causes

An operation that fails says why at several levels: first what it was about to do, then what went
wrong with that, down to the first cause.  A report of a failure is the list of these causes, the
outermost first.
-/

namespace CodeGloss

/-- A text format that is read from outside. -/
inductive Format where
  /-- Settings. -/
  | toml
  /-- Records. -/
  | json
  /-- Patterns for paths. -/
  | glob
deriving DecidableEq, Repr

/-- The report of a text that is not of a format. -/
def Format.complaint : Format → String
  | toml => "not a table of settings"
  | json => "not a record of the expected form"
  | glob => "not a pattern for paths"

/-- One level of the explanation of a failure. -/
inductive Cause where
  /-- A sentence of the program. -/
  | said (text : String)
  /-- A file could not be used. -/
  | fault (fault : Fault)
  /-- A text was not of the expected format. -/
  | malformed (format : Format)
  /-- The service gave no usable answer. -/
  | service (failure : Service.Failure)
deriving DecidableEq, Repr

/-- The text of a cause. -/
def Cause.message : Cause → String
  | said text => text
  | fault f => f.message
  | malformed format => format.complaint
  | service failure => failure.message

/-- The explanation of a failure, the outermost cause first. -/
abbrev Report := List Cause

/-- A report in one line. -/
def Report.line (r : Report) : String :=
  ": ".intercalate (r.map Cause.message)

/-- Says what was being done when a fault came up. -/
def Fault.during (text : String) : Except Fault α → Except Report α
  | .ok a => .ok a
  | .error f => .error [.said text, .fault f]

end CodeGloss
