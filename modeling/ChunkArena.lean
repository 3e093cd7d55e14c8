import ChunkArena.Session.Transcript
import ChunkArena.Proofs.ChunkStack
import ChunkArena.Proofs.ArenaChanges
import ChunkArena.Proofs.ArenaOperations
import ChunkArena.Proofs.SystemGuarantees
import ChunkArena.Proofs.BackedArenas
import ChunkArena.Proofs.Requests
import ChunkArena.Proofs.RequestEffects
import ChunkArena.Proofs.HoldingLedger
import ChunkArena.Proofs.RequestLedger
import ChunkArena.Proofs.WorldSoundness
import ChunkArena.Proofs.ChunkRepresentation
import ChunkArena.Proofs.LedgerCalls
import ChunkArena.Proofs.ClientHoldings
import ChunkArena.Proofs.StoredValues
import ChunkArena.Proofs.DisjointHoldings
import ChunkArena.Proofs.EarlierStates
import ChunkArena.Proofs.SnapshotIntervals
import ChunkArena.Proofs.IntervalBytes
import ChunkArena.Proofs.RewindRestoration
import ChunkArena.Proofs.WorldSteps
import ChunkArena.Proofs.BlockPassages
import ChunkArena.Proofs.BlockConservation
import ChunkArena.Proofs.BlockAccounting
import ChunkArena.Proofs.SnapshotHistory
import ChunkArena.Proofs.RewindOutcomes
import ChunkArena.Proofs.GuardScopes
import ChunkArena.Proofs.RewindGuardScopes
import ChunkArena.Proofs.RewindGuards
import ChunkArena.Proofs.StrippedOperations
import ChunkArena.Proofs.StrippedWorlds
import ChunkArena.Proofs.PairedRequests
import ChunkArena.Proofs.GuardIndifference
import ChunkArena.Proofs.RequestAgreement
import ChunkArena.Proofs.HoldingBytes
import ChunkArena.Proofs.RecordingClients
import ChunkArena.Proofs.BuildAgreement
import ChunkArena.Proofs.BuildTransparency
import ChunkArena.Proofs.RewindTargets
import ChunkArena.Proofs.ForeignSnapshots
import ChunkArena.Proofs.OperationFailures
import ChunkArena.Proofs.RequestFailures
import ChunkArena.Proofs.OccupiedBytes
import ChunkArena.Proofs.RequestMarks
import ChunkArena.Proofs.NamedPanics
import ChunkArena.Proofs.FillMarks
import ChunkArena.Proofs.RewindAbsorption
import ChunkArena.Proofs.DisableGuards
import ChunkArena.Proofs.MirroredArenas
import ChunkArena.Proofs.ReflectedWorlds
import ChunkArena.Proofs.ArenaUses
import ChunkArena.Proofs.UseSequences
import ChunkArena.Proofs.ReleasedArenas
import ChunkArena.Proofs.SharedWorlds
import ChunkArena.Proofs.ArenaIndependence
import ChunkArena.Proofs.MessageDelivery
import ChunkArena.Proofs.LoggerRegistration
import ChunkArena.Proofs.ValueDestruction
import ChunkArena.Proofs.MemoryProviders
import ChunkArena.Proofs.GenericConsumers
import ChunkArena.Proofs.ConsumerAgreement
import ChunkArena.Proofs.ByteRequests
import ChunkArena.Proofs.GrowthComposition
import ChunkArena.Proofs.GrowableArrays
import ChunkArena.Proofs.RequestPieces
import ChunkArena.Proofs.BorrowChecks
import ChunkArena.Proofs.ChunkTiling
import ChunkArena.Proofs.PieceHistories
import ChunkArena.Proofs.InterfaceAgreement
import ChunkArena.Proofs.MemoryIrrelevance
import ChunkArena.Proofs.OwnedAddresses
import ChunkArena.Proofs.LogTranscripts
import ChunkArena.Proofs.ChunkLines
import ChunkArena.Proofs.ActionLines
import ChunkArena.Proofs.ChunkJournal
import ChunkArena.Proofs.LevelSpelling
import ChunkArena.Proofs.LevelReadback
import ChunkArena.Proofs.EscapeDecoding
