import PageExtract.Request
import PageExtract.Proofs.SanitizerScope
import PageExtract.Proofs.Collapse
import PageExtract.Proofs.Shape
import PageExtract.Proofs.DocumentOrder
import PageExtract.Proofs.Loading
import PageExtract.Proofs.LoadingFaults
import PageExtract.Proofs.HookRelation
import PageExtract.Proofs.FirstFailure
import PageExtract.Proofs.SelectorScope
import PageExtract.Proofs.WholeDocument
import PageExtract.Proofs.Nesting
import PageExtract.Proofs.BuiltinHooks
import PageExtract.Proofs.IdentityPosts
import PageExtract.Proofs.FaultOrder
import PageExtract.Proofs.ContextScope
import PageExtract.Proofs.Containment
import PageExtract.Proofs.Layout
import PageExtract.Proofs.PrintedText
import PageExtract.Proofs.ReadBack
import PageExtract.Proofs.Replies
import PageExtract.Proofs.Construction
import PageExtract.Proofs.Shorthand
import PageExtract.Proofs.PostProcessing
import PageExtract.Proofs.Ignoring
import PageExtract.Proofs.FieldChoice
import PageExtract.Proofs.CallOrder
import PageExtract.Proofs.Pruning
import PageExtract.Proofs.Leaves
import PageExtract.Proofs.AccessorNames
import PageExtract.Proofs.Overflow
import PageExtract.Proofs.Prices
import PageExtract.Proofs.Registrations
import PageExtract.Proofs.Provenance
import PageExtract.Proofs.RecordCalls
import PageExtract.Proofs.TrimmedText
