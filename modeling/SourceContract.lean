import SourceContract.Main
import SourceContract.Proofs.CommandLine.Colour
import SourceContract.Proofs.CommandLine.Presentation
import SourceContract.Proofs.CommandLine.Rerun
import SourceContract.Proofs.Contract.Value
import SourceContract.Proofs.Corpus.Discovery
import SourceContract.Proofs.Corpus.Snapshot
import SourceContract.Proofs.Matching.Compiled
import SourceContract.Proofs.Matching.Count
import SourceContract.Proofs.Matching.Word
import SourceContract.Proofs.Verdict.Confirmed
import SourceContract.Proofs.Verdict.Counters
import SourceContract.Proofs.Verdict.Findings
import SourceContract.Proofs.Verdict.Growth
import SourceContract.Proofs.Verdict.Inspection
import SourceContract.Proofs.Verdict.Listed
import SourceContract.Proofs.Verdict.Measurement
import SourceContract.Proofs.Verdict.Missing
import SourceContract.Proofs.Verdict.Mode
import SourceContract.Proofs.Verdict.Recommendation
import SourceContract.Proofs.Verdict.Satisfiable
import SourceContract.Proofs.Verdict.Tally
import SourceContract.Proofs.Verdict.Vacant
import SourceContract.Proofs.Verdict.Value
