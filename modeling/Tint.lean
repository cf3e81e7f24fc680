import Tint.Files.Loading
import Tint.Highlighter
import Tint.Proofs.Keywords
import Tint.Proofs.Compile
import Tint.Proofs.Numbering
import Tint.Proofs.Lockstep
import Tint.Proofs.Classification
import Tint.Proofs.Coverage
import Tint.Proofs.Provenance
import Tint.Proofs.Ending
import Tint.Proofs.Guards
import Tint.Proofs.Restart
import Tint.Proofs.Strict.Reading
import Tint.Proofs.Correspondence
import Tint.Proofs.Stack
import Tint.Proofs.Outline
import Tint.Proofs.Size
import Tint.Proofs.Reordering
import Tint.Proofs.Json.Reading
import Tint.Proofs.Json.Definition
import Tint.Proofs.Acceptance
import Tint.Proofs.Detection
import Tint.Proofs.Sessions
import Tint.Proofs.Anchors
import Tint.Proofs.Depth
import Tint.Proofs.Relevance
import Tint.Proofs.Language.JavaScript
import Tint.Proofs.Case.Alike
import Tint.Proofs.Case.Terms
import Tint.Proofs.Case.Matching
import Tint.Proofs.Case.Reading
import Tint.Proofs.Faults
import Tint.Proofs.Files.Loading
import Tint.Proofs.NextWord
import Tint.Proofs.Weaving
import Tint.Proofs.Nesting
import Tint.Proofs.Selection
import Tint.Proofs.Transient
import Tint.Proofs.Redundancy
import Tint.Proofs.Rejection
import Tint.Proofs.Candidates
import Tint.Proofs.Resuming
import Tint.Proofs.Wrapping.Reading
import Tint.Proofs.Wrapping.Threads
import Tint.Proofs.Wrapping.Matching
import Tint.Proofs.Answers
import Tint.Proofs.Json.Spelling
import Tint.Proofs.Naming
import Tint.Proofs.Files.Deletion
import Tint.Proofs.Files.Reloading
import Tint.Proofs.Surroundings
import Tint.Proofs.Covering
