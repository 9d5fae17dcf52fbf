import Codemod.Main
import Codemod.Proofs.Trees
import Codemod.Proofs.RenamePlan
import Codemod.Proofs.Isolation
import Codemod.Proofs.Splice
import Codemod.Proofs.Assembly
import Codemod.Proofs.Balance
import Codemod.Proofs.Refusals
import Codemod.Proofs.Occurrences
import Codemod.Proofs.Regions
import Codemod.Proofs.Confinement
import Codemod.Proofs.Batching
import Codemod.Proofs.Mentions
import Codemod.Proofs.Paths
import Codemod.Proofs.Names
import Codemod.Proofs.Globs
import Codemod.Proofs.Namings
import Codemod.Proofs.Conventions
import Codemod.Proofs.Simulation
import Codemod.Proofs.Disks
import Codemod.Proofs.Validation
import Codemod.Proofs.Directories
import Codemod.Proofs.Frame
import Codemod.Proofs.Scope
import Codemod.Proofs.DryRun
import Codemod.Proofs.RoundTrip
import Codemod.Proofs.WordMaps
import Codemod.Proofs.SecondRun
import Codemod.Proofs.Reports
import Codemod.Proofs.Layouts
import Codemod.Proofs.Stores
import Codemod.Proofs.Accounts
import Codemod.Proofs.Spellings
import Codemod.Proofs.ByteOrderMark
import Codemod.Proofs.Barriers
import Codemod.Proofs.TemplateMarks
import Codemod.Proofs.CommentTexts
import Codemod.Proofs.GlobTexts
import Codemod.Proofs.Preparation
