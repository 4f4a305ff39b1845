/-
  Decode tables of specification texts.

  * `SpecError`: a row that is none, or rows that do not go together.
  * `Table.ofSource`: the table that a text describes.
-/
import IsaTable.Spec.Load
import IsaTable.Table.Build

namespace IsaTable

/-- Why a text describes no table. -/
inductive SpecError where
  | row (error : RowError)
  | build (error : BuildError)
deriving DecidableEq

namespace SpecError

/-- The error itself in words. -/
def cause : SpecError → String
  | row error => error.message
  | build error => error.message

/-- The error in words, after the stage that it belongs to. -/
def message : SpecError → String
  | row error => "Specification error: " ++ error.message
  | build error => "Decode table error: " ++ error.message

end SpecError

namespace Table

/-- The table that a text describes. -/
def ofSource (d : Dialect) (source : String) : Except SpecError Table :=
  match d.load source with
  | .error e => .error (.row e)
  | .ok records => (build records).mapError .build

/-- Loading and building with the events of both. -/
def ofSourceReport (d : Dialect) (source : String) : Report SpecError Table := do
  let records ← (d.loadReport source).mapError .row
  (buildReport records).mapError .build

/-- The reported result is that of loading and building. -/
@[simp] theorem result_ofSourceReport (d : Dialect) (source : String) :
    (ofSourceReport d source).result = ofSource d source := by
  simp only [ofSourceReport, ofSource, Dialect.loadReport, buildReport, Report.result_bind,
    Report.result_mapError, Report.result_ofExcept]
  cases d.load source <;> rfl

end Table

end IsaTable
