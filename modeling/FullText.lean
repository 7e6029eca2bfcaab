import FullText.Checked
import FullText.Proofs.Breaks
import FullText.Proofs.Chains
import FullText.Proofs.CleanText
import FullText.Proofs.LowerCase
import FullText.Proofs.Diagnosis
import FullText.Proofs.History
import FullText.Proofs.Nesting
import FullText.Proofs.Unambiguity
import FullText.Proofs.Respelling
import FullText.Proofs.Starring
import FullText.Proofs.Composition
import FullText.Proofs.Requirement
import FullText.Proofs.Descent
