import Diorama.CardFrame.Document
import Diorama.Compositor.Document
import Diorama.Main
import Diorama.Media.Document
import Diorama.Proofs.CardCodec
import Diorama.Proofs.CardLayout
import Diorama.Proofs.CardCycle
import Diorama.Proofs.Packing
import Diorama.Proofs.Hover
import Diorama.Stack.Document
import Diorama.Text.Hex
import Diorama.Proofs.ScreenUpdates
import Diorama.Proofs.Upkeep
import Diorama.Proofs.MediaLedger
import Diorama.Proofs.Pairing
import Diorama.Proofs.CrossFades
import Diorama.Proofs.Display
import Diorama.Proofs.RenderRequests
import Diorama.Proofs.Cues
import Diorama.Proofs.Flags
import Diorama.Proofs.Refusals
import Diorama.Proofs.Legs
import Diorama.Proofs.Aborts
import Diorama.Proofs.Button
import Diorama.Proofs.Teardown
import Diorama.Proofs.Restoring
import Diorama.Proofs.Window
import Diorama.Proofs.Traffic
import Diorama.Proofs.Idle
import Diorama.Proofs.Opening
import Diorama.Proofs.MovieStarts
import Diorama.Proofs.Atomicity
import Diorama.Proofs.Depth
import Diorama.Proofs.Prepare
import Diorama.Proofs.Failures
import Diorama.Proofs.Chains
import Diorama.Proofs.History
import Diorama.Proofs.Gate
import Diorama.Proofs.Directory
import Diorama.Proofs.FrameNumbers
import Diorama.Proofs.StackCache
import Diorama.Proofs.Selection
import Diorama.Proofs.ArchiveForm
import Diorama.Proofs.OutOfSight
import Diorama.Proofs.Mapping
import Diorama.Proofs.LargestFit
import Diorama.Proofs.NameTable
import Diorama.Proofs.JsonText
import Diorama.Proofs.SavedGame
import Diorama.Proofs.Publishing
