import FlashStation.Bench.Console
import FlashStation.Bench.Exercise
import FlashStation.Bench.Run
import FlashStation.Main
import FlashStation.Place.Shelf
import FlashStation.Proofs.Ownership
import FlashStation.Proofs.Transport
import FlashStation.Proofs.Footing
import FlashStation.Proofs.Services
import FlashStation.Proofs.Promises
import FlashStation.Proofs.Verdict
import FlashStation.Proofs.Withdrawal
import FlashStation.Proofs.Transitions
import FlashStation.Proofs.Ledger
import FlashStation.Proofs.Custody
import FlashStation.Proofs.Writing
import FlashStation.Proofs.Reversion
import FlashStation.Proofs.Fetching
import FlashStation.Proofs.Preview
import FlashStation.Proofs.Leases
import FlashStation.Proofs.Berth
import FlashStation.Proofs.Recovery
import FlashStation.Proofs.Grants
import FlashStation.Proofs.Stages
import FlashStation.Proofs.Endings
import FlashStation.Proofs.Manifests
import FlashStation.Proofs.Upshot
import FlashStation.Proofs.Proportion
import FlashStation.Proofs.Complaints
import FlashStation.Proofs.Selecting
import FlashStation.Proofs.Descriptions
import FlashStation.Proofs.Locations
import FlashStation.Proofs.Literals
import FlashStation.Proofs.Markers
import FlashStation.Proofs.Recasting
import FlashStation.Proofs.Whereabouts
import FlashStation.Proofs.Printing
import FlashStation.Proofs.Spellings
import FlashStation.Proofs.Chronicle
import FlashStation.Proofs.Precedence
