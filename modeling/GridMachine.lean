import GridMachine.Machine.Describe
import GridMachine.Main
import GridMachine.Proofs.BracketCounts
import GridMachine.Proofs.BuilderCalls
import GridMachine.Proofs.Commands
import GridMachine.Proofs.Effects
import GridMachine.Proofs.EventJson
import GridMachine.Proofs.GridBlanks
import GridMachine.Proofs.GridText
import GridMachine.Proofs.HeaderGrammar
import GridMachine.Proofs.LockedEvents
import GridMachine.Proofs.ManifestJson
import GridMachine.Proofs.Passing
import GridMachine.Proofs.RecordLines
import GridMachine.Proofs.Reordering
import GridMachine.Proofs.Repeats
import GridMachine.Proofs.SearchDirs
import GridMachine.Proofs.Stages
import GridMachine.Proofs.Summary
