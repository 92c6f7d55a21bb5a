import Blast.Go.Types
import Blast.Go.Call
import Blast.Challenger.Player
import Blast.Challenger.NewPlayer
import Blast.Proposer.Output
import Blast.Proposer.Loop
import Blast.Proposer.Send
import Blast.Indexer.Database
import Blast.Indexer.Contracts
import Blast.Indexer.LegacyInitiated
import Blast.Indexer.LegacyFinalized
