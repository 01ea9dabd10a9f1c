import RecordSchema.Conversion.Record
import RecordSchema.Conversion.Validated
import RecordSchema.Descriptor.Blueprint
import RecordSchema.Log.Setup
import RecordSchema.Proofs.Conversion.Blame
import RecordSchema.Proofs.Conversion.Conduct
import RecordSchema.Proofs.Conversion.Contract
import RecordSchema.Proofs.Conversion.Delegation
import RecordSchema.Proofs.Conversion.Discipline
import RecordSchema.Proofs.Conversion.Invisibility
import RecordSchema.Proofs.Conversion.Listing
import RecordSchema.Proofs.Conversion.Misfits
import RecordSchema.Proofs.Conversion.Problems
import RecordSchema.Proofs.Conversion.Rebasing
import RecordSchema.Proofs.Conversion.Relocation
import RecordSchema.Proofs.Conversion.Reordering
import RecordSchema.Proofs.Conversion.Reversal
import RecordSchema.Proofs.Conversion.Walk
import RecordSchema.Proofs.Descriptor.Accord
import RecordSchema.Proofs.Descriptor.Admission
import RecordSchema.Proofs.Descriptor.Checked
import RecordSchema.Proofs.Descriptor.Conduct
import RecordSchema.Proofs.Descriptor.Congruence
import RecordSchema.Proofs.Descriptor.Construction
import RecordSchema.Proofs.Descriptor.Consulting
import RecordSchema.Proofs.Descriptor.Delegation
import RecordSchema.Proofs.Descriptor.Discipline
import RecordSchema.Proofs.Descriptor.Exchange
import RecordSchema.Proofs.Descriptor.Filing
import RecordSchema.Proofs.Descriptor.Layering
import RecordSchema.Proofs.Descriptor.Likeness
import RecordSchema.Proofs.Descriptor.Obtaining
import RecordSchema.Proofs.Descriptor.Positions
import RecordSchema.Proofs.Descriptor.Refusal
import RecordSchema.Proofs.Descriptor.Reordering
import RecordSchema.Proofs.Descriptor.Reporting
import RecordSchema.Proofs.Descriptor.Rereading
import RecordSchema.Proofs.Descriptor.Resuming
import RecordSchema.Proofs.Descriptor.Sameness
import RecordSchema.Proofs.Descriptor.Satisfaction
import RecordSchema.Proofs.Descriptor.Soundness
import RecordSchema.Proofs.Descriptor.Standard
import RecordSchema.Proofs.Descriptor.Substitution
import RecordSchema.Proofs.Descriptor.Wrapping
import RecordSchema.Proofs.Document.Clauses
import RecordSchema.Proofs.Document.Conduct
import RecordSchema.Proofs.Document.Constancy
import RecordSchema.Proofs.Document.DeclarationOrder
import RecordSchema.Proofs.Document.Decoding
import RecordSchema.Proofs.Document.Delegation
import RecordSchema.Proofs.Document.Depth
import RecordSchema.Proofs.Document.Description
import RecordSchema.Proofs.Document.Discipline
import RecordSchema.Proofs.Document.Keywords
import RecordSchema.Proofs.Document.Likeness
import RecordSchema.Proofs.Document.Meaning
import RecordSchema.Proofs.Document.Memoization
import RecordSchema.Proofs.Document.Nodes
import RecordSchema.Proofs.Document.Nullability
import RecordSchema.Proofs.Document.Ordering
import RecordSchema.Proofs.Document.Placement
import RecordSchema.Proofs.Document.Rearrangement
import RecordSchema.Proofs.Document.Recency
import RecordSchema.Proofs.Document.Remembered
import RecordSchema.Proofs.Document.Retention
import RecordSchema.Proofs.Document.Shape
import RecordSchema.Proofs.Document.Tree
import RecordSchema.Proofs.Log.Interruption
import RecordSchema.Proofs.Log.Observing
import RecordSchema.Proofs.Log.Setup
import RecordSchema.Proofs.Number.Digits
import RecordSchema.Proofs.Number.Order
import RecordSchema.Proofs.Options.Complaints
import RecordSchema.Proofs.Options.Explicit
import RecordSchema.Proofs.Options.Layer
import RecordSchema.Proofs.Options.Layers
import RecordSchema.Proofs.Options.Renaming
import RecordSchema.Proofs.Options.Typing
import RecordSchema.Proofs.Provider.Delivery
import RecordSchema.Proofs.Provider.Frugality
import RecordSchema.Proofs.Provider.Growth
import RecordSchema.Proofs.Provider.Json
import RecordSchema.Proofs.Provider.Naming
import RecordSchema.Proofs.Provider.Portability
import RecordSchema.Proofs.Provider.Registrations
import RecordSchema.Proofs.Provider.Registry
import RecordSchema.Proofs.Provider.Sharing
import RecordSchema.Proofs.Provider.Snapshot
import RecordSchema.Proofs.Session.Abreast
import RecordSchema.Proofs.Session.Agreement
import RecordSchema.Proofs.Session.Calls
import RecordSchema.Proofs.Session.Conduct
import RecordSchema.Proofs.Session.Discipline
import RecordSchema.Proofs.Session.Emitting
import RecordSchema.Proofs.Session.Growing
import RecordSchema.Proofs.Session.Likeness
import RecordSchema.Proofs.Session.Outcome
import RecordSchema.Proofs.Session.Shadow
import RecordSchema.Proofs.Session.World
import RecordSchema.Proofs.Text.Lines
import RecordSchema.Proofs.Value.Keys
import RecordSchema.Proofs.Value.Parts
import RecordSchema.Proofs.Value.Renaming
import RecordSchema.Provider.Delegation
import RecordSchema.Provider.Registration
import RecordSchema.Template
