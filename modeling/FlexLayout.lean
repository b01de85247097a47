import FlexLayout.Document.Survey
import FlexLayout.Main
import FlexLayout.Proofs.Aspect
import FlexLayout.Proofs.Document.Decoding
import FlexLayout.Proofs.Length.Token
import FlexLayout.Proofs.Resolve.Absence
import FlexLayout.Proofs.Resolve.Accounting
import FlexLayout.Proofs.Resolve.Activation
import FlexLayout.Proofs.Resolve.Address
import FlexLayout.Proofs.Resolve.Alignment
import FlexLayout.Proofs.Resolve.AltText
import FlexLayout.Proofs.Resolve.Carousel
import FlexLayout.Proofs.Resolve.Dropped
import FlexLayout.Proofs.Resolve.Kinds
import FlexLayout.Proofs.Resolve.LineSpacing
import FlexLayout.Proofs.Resolve.Locality
import FlexLayout.Proofs.Resolve.Noninterference
import FlexLayout.Proofs.Resolve.Padding
import FlexLayout.Proofs.Resolve.Readback
import FlexLayout.Proofs.Resolve.WellFormed
import FlexLayout.Proofs.Sample.Width
import FlexLayout.Proofs.Shell.Viewer
import FlexLayout.Proofs.Tree.Counting
import FlexLayout.Proofs.Tree.Number
import FlexLayout.Proofs.Tree.Stability
