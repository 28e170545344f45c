import OpenApiTypes.Main
import OpenApiTypes.Proofs.Traces
import OpenApiTypes.Proofs.Assembly
import OpenApiTypes.Proofs.Members
import OpenApiTypes.Proofs.Declarations
import OpenApiTypes.Proofs.References
import OpenApiTypes.Proofs.Closure
import OpenApiTypes.Proofs.Scope
import OpenApiTypes.Proofs.Destination
import OpenApiTypes.Proofs.Growth
import OpenApiTypes.Proofs.Usage
import OpenApiTypes.Proofs.Writing
import OpenApiTypes.Proofs.Collisions
import OpenApiTypes.Proofs.Escapes
import OpenApiTypes.Proofs.Marks
import OpenApiTypes.Proofs.Erasure
import OpenApiTypes.Proofs.Undocumented
import OpenApiTypes.Proofs.Blocks
import OpenApiTypes.Proofs.Signatures
import OpenApiTypes.Proofs.Lines
import OpenApiTypes.Proofs.Unambiguous
import OpenApiTypes.Proofs.Surroundings
import OpenApiTypes.Proofs.Reordering
import OpenApiTypes.Proofs.FirstFailure
import OpenApiTypes.Proofs.Skipped
import OpenApiTypes.Proofs.Schemas
import OpenApiTypes.Proofs.Offences
import OpenApiTypes.Proofs.Faults
import OpenApiTypes.Proofs.Paragraphs
import OpenApiTypes.Proofs.Interruption
import OpenApiTypes.Proofs.Addresses
import OpenApiTypes.Proofs.Preparation
import OpenApiTypes.Proofs.Cutting
import OpenApiTypes.Proofs.LineEndings
import OpenApiTypes.Proofs.Reading
import OpenApiTypes.Proofs.Outcomes
import OpenApiTypes.Proofs.Sources
import OpenApiTypes.Proofs.Routes
import OpenApiTypes.Proofs.Grammar
import OpenApiTypes.Proofs.MemberKeys
import OpenApiTypes.Proofs.Listing
import OpenApiTypes.Proofs.Wrappers
import OpenApiTypes.Proofs.Interfaces
import OpenApiTypes.Proofs.Beginnings
import OpenApiTypes.Proofs.Spelling
import OpenApiTypes.Proofs.KindLiterals
import OpenApiTypes.Proofs.Outline
import OpenApiTypes.Proofs.ReleaseTags
import OpenApiTypes.Proofs.BlockText
import OpenApiTypes.Proofs.Rereading
import OpenApiTypes.Proofs.Overrides
import OpenApiTypes.Proofs.Configurations
