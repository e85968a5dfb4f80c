import CodeMentor.CommandLine.Outcome
import CodeMentor.Proofs.RoundTrips
import CodeMentor.Proofs.Text.Pieces

/-!
# What a report shows

A report can be had in three formats. One of them is read back by a machine; the other two are for
people, and what they say is told here by the lines that stand in them, without a word about how
they are put together: the numbers of the analysis with their names, the lists in full and in order,
and the verdict of the gate. Names that would make a terminal report too long are counted instead.
-/

namespace CodeMentor

open CodeMentor.Text

section Parts

variable {ls all : List String}

end Parts

namespace CommandLine

end CommandLine

end CodeMentor
