import NoiseLink.Suite.Standard
import NoiseLink.Key
import NoiseLink.Noise.Initiator
import NoiseLink.Noise.Responder
import NoiseLink.Link.Pair
import NoiseLink.Stream.Channel
import NoiseLink.Decimal.Layout
import NoiseLink.Document.Json
import NoiseLink.Document.Path
import NoiseLink.Document.Toml
import NoiseLink.Duration
import NoiseLink.Text.Utf8
import NoiseLink.Log.Logger
import NoiseLink.KeyGenerator.Console
import NoiseLink.Peer.Program
import NoiseLink.Main
import NoiseLink.Proofs.Cuts
import NoiseLink.Proofs.Primitives
import NoiseLink.Proofs.Transcript
import NoiseLink.Proofs.Acts
import NoiseLink.Proofs.KeyAgreement
import NoiseLink.Proofs.InitiatorActs
import NoiseLink.Proofs.ResponderActs
import NoiseLink.Proofs.Coordinates
import NoiseLink.Proofs.CurveGroup
import NoiseLink.Proofs.PublicKeys
import NoiseLink.Proofs.StandardSuite
import NoiseLink.Proofs.CipherUses
import NoiseLink.Proofs.KeySchedule
import NoiseLink.Proofs.NonceUse
import NoiseLink.Proofs.DecoderReads
import NoiseLink.Proofs.RecordReader
import NoiseLink.Proofs.Reception
import NoiseLink.Proofs.RecordIntegrity
import NoiseLink.Proofs.RecordCodec
import NoiseLink.Proofs.Chunking
import NoiseLink.Proofs.RecordFlow
import NoiseLink.Proofs.LinkSteps
import NoiseLink.Proofs.LinkedPair
import NoiseLink.Proofs.Delivery
import NoiseLink.Proofs.Rejections
import NoiseLink.Proofs.Turns
import NoiseLink.Proofs.ActOrder
import NoiseLink.Proofs.LinkLifeCycle
import NoiseLink.Proofs.RecordScripts
import NoiseLink.Proofs.StreamReads
import NoiseLink.Proofs.ActScripts
import NoiseLink.Proofs.Segmentation
import NoiseLink.Proofs.ConnectionReports
import NoiseLink.Proofs.LinkStates
import NoiseLink.Proofs.ErrorPhases
import NoiseLink.Proofs.Halves
import NoiseLink.Proofs.HandshakeChunks
import NoiseLink.Proofs.ChannelTurns
import NoiseLink.Proofs.ChannelRuns
import NoiseLink.Proofs.ChannelPayloads
import NoiseLink.Proofs.FailClosed
import NoiseLink.Proofs.DecoderAccounts
import NoiseLink.Proofs.ExactReads
import NoiseLink.Proofs.DecoderRests
import NoiseLink.Proofs.LinkArrivals
import NoiseLink.Proofs.EndOfInput
import NoiseLink.Proofs.RefusedSends
import NoiseLink.Proofs.LimitInForce
import NoiseLink.Proofs.ThreeWays
import NoiseLink.Proofs.FailedStarts
import NoiseLink.Proofs.RejectedBytes
import NoiseLink.Proofs.ArrivalFaults
import NoiseLink.Proofs.Blame
import NoiseLink.Proofs.Truncations
import NoiseLink.Proofs.Greetings
import NoiseLink.Proofs.HexTexts
import NoiseLink.Proofs.KeyBytes
import NoiseLink.Proofs.KeyTexts
import NoiseLink.Proofs.Durations
import NoiseLink.Proofs.ErrorTexts
import NoiseLink.Proofs.ActOperations
import NoiseLink.Proofs.DialReports
import NoiseLink.Proofs.KeysInStep
import NoiseLink.Proofs.NothingInTheClear
import NoiseLink.Proofs.SecretLifetimes
import NoiseLink.Proofs.HandshakeWaits
