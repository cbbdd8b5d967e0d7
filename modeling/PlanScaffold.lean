import PlanScaffold.Main
import PlanScaffold.Proofs.FileTree.Resolution
import PlanScaffold.Proofs.Disk.Creation
import PlanScaffold.Proofs.Concurrency.Machine
import PlanScaffold.Proofs.Concurrency.Ownership
import PlanScaffold.Proofs.Concurrency.NoClobbering
import PlanScaffold.Proofs.Generate
import PlanScaffold.Proofs.Operations
import PlanScaffold.Proofs.Skeleton.Lines
import PlanScaffold.Proofs.Skeleton.Recovery
import PlanScaffold.Proofs.Skeleton.Counting
import PlanScaffold.Proofs.Spellings
import PlanScaffold.Proofs.Text.Blanks
import PlanScaffold.Proofs.Text.WordEnds
import PlanScaffold.Proofs.Text.Spaces
import PlanScaffold.Proofs.Text.Settling
import PlanScaffold.Proofs.Text.Forms
import PlanScaffold.Proofs.Text.Ascii
import PlanScaffold.Proofs.Answers
import PlanScaffold.Proofs.Names
import PlanScaffold.Proofs.Tokens
import PlanScaffold.Proofs.Tokens.Retyped
import PlanScaffold.Proofs.Tokens.LetterCase
import PlanScaffold.Proofs.EmptyTokens
import PlanScaffold.Proofs.Terminal.Answers
import PlanScaffold.Proofs.Terminal.Runs
import PlanScaffold.Proofs.Terminal.Scripts
import PlanScaffold.Proofs.Terminal.Skeletons
import PlanScaffold.Proofs.Memory.Generation
import PlanScaffold.Proofs.Command.Contract
import PlanScaffold.Proofs.Memory.WriteOnce
import PlanScaffold.Proofs.Simulation
import PlanScaffold.Proofs.Memory.Mirror
import PlanScaffold.Proofs.Toml.WellKeyed
import PlanScaffold.Proofs.Toml.DistinctKeys
import PlanScaffold.Proofs.Config.Grammar
import PlanScaffold.Proofs.FileTree.Walks
import PlanScaffold.Proofs.Config.Loading
import PlanScaffold.Proofs.Command.Logging
import PlanScaffold.Proofs.SuffixWarning
import PlanScaffold.Proofs.Requests
