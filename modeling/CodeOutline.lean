import CodeOutline.Files
import CodeOutline.Interchange
import CodeOutline.Proofs.Elision
import CodeOutline.Proofs.Locality
import CodeOutline.Proofs.Order
import CodeOutline.Proofs.Pruning
import CodeOutline.Proofs.Dialects
import CodeOutline.Proofs.RoundTrip
import CodeOutline.Proofs.Visits
import CodeOutline.Proofs.Exports
import CodeOutline.Proofs.Excerpts
import CodeOutline.Proofs.Attachment
import CodeOutline.Proofs.Transparency
import CodeOutline.Proofs.Naming
import CodeOutline.Proofs.Privacy
import CodeOutline.Proofs.Indentation
import CodeOutline.Proofs.Templates
import CodeOutline.Proofs.Trailing
import CodeOutline.Proofs.ExportWords
import CodeOutline.Proofs.Docstrings
import CodeOutline.Proofs.Declarators
import CodeOutline.Proofs.Specifications
import CodeOutline.Proofs.DeclaredNames
import CodeOutline.Proofs.Decoding
import CodeOutline.Proofs.Methods
