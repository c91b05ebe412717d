import ProbeTrace.Report.Document
import ProbeTrace.Report.Text

/-!
# Formats of reports
-/

set_option autoImplicit false

namespace ProbeTrace

inductive ReportFormat where
  | text
  | json
  deriving DecidableEq, Repr

namespace Report

def render (report : Report) : ReportFormat → String
  | .text => report.text
  | .json => report.document.pretty

end Report
end ProbeTrace
