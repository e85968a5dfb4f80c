import CodeMentor.Proofs.Analysis.Commentary
import CodeMentor.Proofs.Analysis.Shown
import CodeMentor.Proofs.Server.Arrivals

/-!
# One analysis behind every entry

Code comes to the analyzer in four ways: posted as a text, uploaded as a file, posted together with
a threshold, and named as a file on the command line. Each of them decodes, analyzes, gates and
renders on its own. The main result says that they agree: the same failure everywhere, or one
analysis with the names of the file set differently, and one verdict. What is no text fails at both
entries that take bytes, whatever analyzer stands behind them. On the server this is about requests
as they arrive, so a body that is too long for its endpoint is refused instead.
-/

namespace CodeMentor

open CodeMentor.Text CodeMentor.Server CodeMentor.CommandLine

variable {σ τ : Type}

/-! ## The analyzer and its service -/

namespace AnalysisService

variable (s : AnalysisService σ)

def plain (code : String) : Except Error Analysis :=
  (s.analyzer.run code).map (·.withCommentary none)

variable {files : Files} {path : String}

end AnalysisService

/-! ## The server -/

namespace Server.State

variable (s : State σ) (now : String) {call : Call}

end Server.State

/-! ## The command line -/

namespace CommandLine

end CommandLine

/-! ## All entries -/

end CodeMentor
