import ValueShape.Ask.Call
import ValueShape.Conduct.Copy
import ValueShape.Value.Declare
import ValueShape.Proofs.Ask.Product
import ValueShape.Proofs.Facet.NormalForm
import ValueShape.Proofs.Build.Isolation
import ValueShape.Proofs.Build.Strictness
import ValueShape.Proofs.Build.Padding
import ValueShape.Proofs.Build.Kindred
import ValueShape.Proofs.Build.Widening
import ValueShape.Proofs.Build.Commute
import ValueShape.Proofs.Build.Nesting
import ValueShape.Proofs.Build.Literal
import ValueShape.Proofs.Build.Sequence
import ValueShape.Proofs.Build.Refusal
import ValueShape.Proofs.Outline.Total
import ValueShape.Proofs.Outline.Print
import ValueShape.Proofs.Outline.Unravel
import ValueShape.Proofs.Outline.Visible
import ValueShape.Proofs.Outline.Reorder
import ValueShape.Proofs.Build.WriteOnce
