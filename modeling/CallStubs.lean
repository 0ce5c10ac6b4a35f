import CallStubs.Main
import CallStubs.Proofs.EditedLine
import CallStubs.Proofs.Redefinition
import CallStubs.Proofs.Retyping
import CallStubs.Proofs.StubTable
import CallStubs.Proofs.Replay
import CallStubs.Proofs.NewCalls
import CallStubs.Proofs.OwnWrite
import CallStubs.Proofs.Mirror
import CallStubs.Proofs.Debouncing
import CallStubs.Proofs.Commands
import CallStubs.Proofs.UniformEndings
import CallStubs.Proofs.Pieces
import CallStubs.Proofs.WrittenCalls
import CallStubs.Proofs.Rewriting
import CallStubs.Proofs.Suppression
import CallStubs.Proofs.StubScope
import CallStubs.Proofs.CallLines
import CallStubs.Proofs.AcceptedEdits
import CallStubs.Proofs.FewestEdits
import CallStubs.Proofs.SettingsByKey
import CallStubs.Proofs.ShiftedLines
import CallStubs.Proofs.LineSearch
import CallStubs.Proofs.RefusedWrites
