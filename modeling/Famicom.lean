import Famicom.Console.Loop
import Famicom.Main
import Famicom.Player.Gesture
import Famicom.Proofs.Cartridge.Format
import Famicom.Proofs.Console.Bounded
import Famicom.Proofs.Picture.Folding
import Famicom.Proofs.Picture.Pixel
import Famicom.Proofs.Picture.Port
import Famicom.Proofs.Picture.Burst
import Famicom.Proofs.Console.Frame
import Famicom.Proofs.Console.Halting
import Famicom.Proofs.Console.Lockstep
import Famicom.Proofs.Player.Halt
import Famicom.Proofs.Console.Blank
import Famicom.Proofs.Shelf.Files
import Famicom.Proofs.Shelf.History
import Famicom.Proofs.Shelf.Refusal
import Famicom.Proofs.Shelf.Interruption
import Famicom.Proofs.Shelf.Takeover
import Famicom.Proofs.Picture.Snapshot
import Famicom.Proofs.Processor.Traffic
import Famicom.Proofs.Processor.Footprint
import Famicom.Proofs.Processor.Return
import Famicom.Proofs.Console.Failing
import Famicom.Proofs.Console.Requests
import Famicom.Proofs.Console.Stopping
import Famicom.Proofs.Console.Drivers
import Famicom.Proofs.Bus.Region
import Famicom.Proofs.Bus.History
import Famicom.Proofs.Bus.Storage
import Famicom.Proofs.Bus.Joypad
import Famicom.Proofs.Bus.Plain
import Famicom.Proofs.Console.Restart
import Famicom.Proofs.Player.Frames
import Famicom.Proofs.Console.Pacing
import Famicom.Proofs.Processor.LongSum
import Famicom.Proofs.Processor.LongShift
import Famicom.Proofs.Processor.Branch
import Famicom.Proofs.Processor.LastInFirstOut
import Famicom.Proofs.Picture.Splitting
import Famicom.Proofs.Picture.Palettes
import Famicom.Proofs.Bus.SpriteTransfer
import Famicom.Proofs.Bus.SecondWrite
import Famicom.Proofs.CommandLine.Address
