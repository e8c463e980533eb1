import Tiff.CommandLine.Plan
import Tiff.Detection
import Tiff.Main
import Tiff.Proofs.Chain
import Tiff.Proofs.Codings
import Tiff.Proofs.Conflicts
import Tiff.Proofs.Conversions
import Tiff.Proofs.Decoration
import Tiff.Proofs.Dictionaries
import Tiff.Proofs.ExposureTimes
import Tiff.Proofs.Floats
import Tiff.Proofs.Following
import Tiff.Proofs.Footprint
import Tiff.Proofs.Grammar
import Tiff.Proofs.Lengths
import Tiff.Proofs.Limits
import Tiff.Proofs.Listing
import Tiff.Proofs.LostLinks
import Tiff.Proofs.LowestTerms
import Tiff.Proofs.Makers
import Tiff.Proofs.NullOffset
import Tiff.Proofs.Previews
import Tiff.Proofs.Registration
import Tiff.Proofs.Requests
import Tiff.Proofs.RoundTrip
import Tiff.Proofs.Selection
import Tiff.Proofs.Sharing
import Tiff.Proofs.Sniffing
import Tiff.Proofs.Streaming
import Tiff.Proofs.Strips
import Tiff.Proofs.Termination
import Tiff.Proofs.Texts
