import PageRouting.Declaration.Specification
import PageRouting.Diagnostic
import PageRouting.History.Navigator
import PageRouting.Interchange
import PageRouting.Json.Value
import PageRouting.Proofs.Declaration.Blocks
import PageRouting.Proofs.Declaration.Lines
import PageRouting.Proofs.Declaration.Nesting
import PageRouting.Proofs.Declaration.Writing
import PageRouting.Proofs.History.Moves
import PageRouting.Proofs.History.Navigation
import PageRouting.Proofs.History.Order
import PageRouting.Proofs.Query.Conservation
import PageRouting.Proofs.Query.Flattening
import PageRouting.Proofs.Query.ListSpelling
import PageRouting.Proofs.Query.Rearrangement
import PageRouting.Proofs.Router.Answer
import PageRouting.Proofs.Router.Canonical
import PageRouting.Proofs.Router.Extension
import PageRouting.Proofs.Router.Links
import PageRouting.Proofs.Router.TrailingSlash
import PageRouting.Proofs.Router.Validation
import PageRouting.Proofs.Selection.Order
import PageRouting.Proofs.Table.Arrangement
import PageRouting.Proofs.Table.Failure
import PageRouting.Proofs.Table.Paths
import PageRouting.Proofs.Table.Redirection
