import CriticalCss.Stylesheet.Fields
import CriticalCss.Main
import CriticalCss.Proofs.Judging
import CriticalCss.Proofs.Ledger
import CriticalCss.Proofs.Numbering
import CriticalCss.Proofs.Recording
import CriticalCss.Proofs.Sites
import CriticalCss.Proofs.Documents
import CriticalCss.Proofs.Presence
import CriticalCss.Proofs.Screen
import CriticalCss.Proofs.Forcing
import CriticalCss.Proofs.Configuring
import CriticalCss.Proofs.Joining
import CriticalCss.Proofs.Ending
import CriticalCss.Proofs.Exchanging
import CriticalCss.Proofs.Deleting
import CriticalCss.Proofs.Matching
import CriticalCss.Proofs.Allowed
import CriticalCss.Proofs.Vendor
import CriticalCss.Proofs.Splicing
import CriticalCss.Proofs.Words
import CriticalCss.Proofs.Canonical
import CriticalCss.Proofs.Purity
import CriticalCss.Proofs.Escaping
import CriticalCss.Proofs.Spacing
import CriticalCss.Proofs.Literals
import CriticalCss.Proofs.Spelling
import CriticalCss.Proofs.Layouts
import CriticalCss.Proofs.Histories
import CriticalCss.Proofs.Extent
import CriticalCss.Proofs.Grammar
import CriticalCss.Proofs.Written
import CriticalCss.Proofs.Answers
import CriticalCss.Proofs.Counting
import CriticalCss.Proofs.Faults
import CriticalCss.Proofs.Mending
import CriticalCss.Proofs.Uncovered
import CriticalCss.Proofs.Marks
import CriticalCss.Proofs.Rendering
import CriticalCss.Proofs.Boundaries
import CriticalCss.Proofs.Containing
import CriticalCss.Proofs.Accepting
