import TwoParty.Bytes
import TwoParty.Bytes.Range
import TwoParty.Channel.Basic
import TwoParty.Channel.Buffer
import TwoParty.Channel.Frame
import TwoParty.Channel.Memory
import TwoParty.Channel.Stream
import TwoParty.ChoiceBit
import TwoParty.CoinToss.Config
import TwoParty.CoinToss.Parties
import TwoParty.CoinToss.Session
import TwoParty.CommandLine.Address
import TwoParty.CommandLine.Arguments
import TwoParty.CommandLine.Grammar
import TwoParty.CommandLine.Help
import TwoParty.CommandLine.Job
import TwoParty.CommandLine.Scan
import TwoParty.Commitment
import TwoParty.Decimal.Read
import TwoParty.Decimal.Shortest
import TwoParty.Decimal.Text
import TwoParty.Error
import TwoParty.Group.Basic
import TwoParty.Group.Choice
import TwoParty.Group.Power
import TwoParty.Group.Ristretto
import TwoParty.Group.SafePrime
import TwoParty.Group.Secp256k1
import TwoParty.Hash.Keccak
import TwoParty.Hash.Sha256
import TwoParty.Hash.Sha512
import TwoParty.Hex
import TwoParty.Json.Error
import TwoParty.Json.Scan
import TwoParty.Json.Skip
import TwoParty.Json.Value
import TwoParty.Kdf
import TwoParty.Main
import TwoParty.Party
import TwoParty.Pedersen.Committer
import TwoParty.Pedersen.Message
import TwoParty.Pedersen.Store
import TwoParty.Pedersen.Transcript
import TwoParty.Pedersen.Verifier
import TwoParty.Proofs.Bytes.Width
import TwoParty.Proofs.Duet.Basic
import TwoParty.Proofs.Duet.Dialogue
import TwoParty.Proofs.Duet.Says
import TwoParty.Proofs.Group.Lawful
import TwoParty.Proofs.Group.Power
import TwoParty.Proofs.Group.SafePrime
import TwoParty.Proofs.Json.Flat
import TwoParty.Proofs.Json.Number
import TwoParty.Proofs.Json.Scan
import TwoParty.Proofs.Json.Text
import TwoParty.Proofs.Wire.Embedding
import TwoParty.Proofs.Wire.Messages
import TwoParty.Proofs.Wire.Plain
import TwoParty.Random
import TwoParty.Relay.Basic
import TwoParty.Relay.Edit
import TwoParty.Relay.Meeting
import TwoParty.Sigma.Proof
import TwoParty.Sigma.Schnorr
import TwoParty.Text.Hidden
import TwoParty.Text.Quoted
import TwoParty.Text.Utf8
import TwoParty.Transcript.Basic
import TwoParty.Transcript.Strobe
import TwoParty.Transfer.Level
import TwoParty.Transfer.Message
import TwoParty.Transfer.Payload
import TwoParty.Transfer.Receiver
import TwoParty.Transfer.Sender
import TwoParty.Version
import TwoParty.Wire.Fields
import TwoParty.Wire.Message
import TwoParty.Wire.Record
import TwoParty.Proofs.Sigma.Completeness
import TwoParty.Proofs.Transfer.Honest
import TwoParty.Proofs.Transfer.Correctness
import TwoParty.Proofs.Transfer.SenderPrivacy
import TwoParty.Proofs.Transfer.SelectiveFailure
import TwoParty.Proofs.Pedersen.Honest
import TwoParty.Proofs.CoinToss.Honest
import TwoParty.Proofs.CoinToss.Run
import TwoParty.Proofs.CoinToss.Agreement
import TwoParty.Proofs.Pedersen.Hiding
import TwoParty.Proofs.Pedersen.Binding
import TwoParty.Proofs.Solo.Basic
import TwoParty.Proofs.Solo.Duet
import TwoParty.Proofs.CoinToss.Withheld
import TwoParty.Proofs.Solo.Announce
import TwoParty.Proofs.Pedersen.Announce
import TwoParty.Proofs.CoinToss.Committed
import TwoParty.Proofs.Solo.Service
import TwoParty.Proofs.Solo.Memory
import TwoParty.Proofs.Group.Member
import TwoParty.Proofs.Pedersen.Calls
import TwoParty.Proofs.Group.Canonical
import TwoParty.Proofs.Pedersen.Held
import TwoParty.Proofs.Pedersen.Issued
import TwoParty.Proofs.Pedersen.Reuse
import TwoParty.Proofs.Pedersen.Session
import TwoParty.Proofs.Transfer.Request
import TwoParty.Proofs.Transfer.SenderGuard
import TwoParty.Proofs.Transfer.Reply
import TwoParty.Proofs.Transfer.ReceiverGuard
import TwoParty.Proofs.Channel.Parse
import TwoParty.Proofs.Channel.Receive
import TwoParty.Proofs.Channel.History
import TwoParty.Proofs.Duet.Schedule
import TwoParty.Proofs.Duet.Draws
import TwoParty.Proofs.Transfer.Schedule
import TwoParty.Proofs.CoinToss.Schedule
import TwoParty.Proofs.Schedule
import TwoParty.Proofs.Channel.Queues
import TwoParty.Proofs.Sigma.Agreement
import TwoParty.Proofs.Sigma.Responses
import TwoParty.Proofs.Wire.RoundTrip
import TwoParty.Proofs.Kdf.Limit
import TwoParty.Proofs.Group.Generator
import TwoParty.Proofs.Group.Exponent
import TwoParty.Proofs.Transfer.KeyProof
import TwoParty.Proofs.Group.ElementCodec
import TwoParty.Proofs.Group.ExponentCodec
import TwoParty.CommandLine.Play
import TwoParty.Proofs.CoinToss.Blame
import TwoParty.Proofs.Solo.Blame
import TwoParty.Proofs.Pedersen.Blame
import TwoParty.Proofs.CommandLine.Sizes
