import Famicom.CommandLine
import Famicom.Player.Focus
import Famicom.Player.Options
import Famicom.Player.Session
import Famicom.Shelf
import Famicom.Storage.Disk

/-!
# The player

The player shows a shelf, runs one of its cartridges at a time and shows the latest frame.

* `openFile`, `launchEntry`, `deleteEntry`, `reset` and `toggleHalt` are what can be done with it.
* `poll`, `hold` and `refresh` look after the session, its joypad and its frames.
* `start` starts the program on a command line.
-/

namespace Famicom

open Storage Player

/-- The player as the latest update has left it. `handover` is the cell for frames while there is no
session and `picture` the latest frame taken from a cell; `halted` is what the player takes the
processor for, and `picks` are the paths that will be picked when a file is asked for, after which
nothing is picked. -/
structure Player where
  disk : Disk
  directory : String
  shelf : Shelf
  scale : Scale
  column : Column
  keys : List Key
  focus : Focus
  joypad : Joypad
  handover : Handover
  picture : Option Picture.Frame
  session : Option Session
  halted : Bool
  status : String
  picks : List (Option String)

namespace Player

def welcome : String := "No ROM loaded. Open a .nes file or pick one from the library."

/-- A player that has just opened its shelf. -/
def fresh (disk : Disk) (directory : String) (shelf : Shelf) (scale : Scale)
    (picks : List (Option String)) : Player where
  disk
  directory
  shelf
  scale
  column := .initial
  keys := []
  focus := .nowhere
  joypad := .released
  handover := .blank
  picture := none
  session := none
  halted := false
  status := welcome
  picks

def report (p : Player) (message : String) : Player := { p with status := message }

/-- Runs a program over the folder of the shelf. -/
def onShelf {α : Type} (p : Player) (program : Program α) : α × Player :=
  let r := p.disk.run p.directory program
  (r.1, { p with disk := r.2 })

/-- The cell for frames, wherever it is. -/
def cell (p : Player) : Handover :=
  match p.session with
  | some s => s.handover
  | none => p.handover

/-- Ends the session, if there is one. -/
def stopSession (p : Player) : Option Console.Failure × Player :=
  match p.session with
  | none => (none, p)
  | some s =>
    let r := s.stop
    (r.1, { p with session := none, handover := r.2 })

/-- Replaces the session by one for an image. -/
def launch (p : Player) (name : String) (entry : UInt64) (image : ByteArray) : Player :=
  let p := p.stopSession.2
  match Cartridge.load image with
  | .error d => p.report ("Failed to start '" ++ name ++ "': " ++ d.message)
  | .ok cartridge =>
    { p with
      status := "Running " ++ name
      halted := false
      session := some (.start name (some entry) cartridge p.joypad p.handover) }

/-- Puts the image at a path on the shelf and starts it. -/
def openFile (p : Player) (path : String) : Player :=
  let failed (p : Player) (reason : String) : Player :=
    p.report ("Failed to open " ++ path ++ ": " ++ reason)
  match p.disk.read path with
  | .error r => failed p r.message
  | .ok image =>
    match Cartridge.load image with
    | .error d => failed p d.message
    | .ok _ =>
      let name := (Path.stem? path).getD "untitled"
      let r := p.onShelf (p.shelf.add name image)
      let added := { r.2 with shelf := r.1.2 }
      match r.1.1 with
      | .error problem => failed added problem.message
      | .ok entry => added.launch entry.name entry.id image

/-- Starts an image from the shelf. -/
def launchEntry (p : Player) (id : UInt64) : Player :=
  let name := ((p.shelf.entry? id).map (·.name)).getD ""
  let r := p.onShelf (p.shelf.load id)
  match r.1 with
  | .ok image => r.2.launch name id image
  | .error problem => r.2.report ("Failed to load '" ++ name ++ "': " ++ problem.message)

/-- Takes an image off the shelf. A session that was started from it goes on. -/
def deleteEntry (p : Player) (id : UInt64) : Player :=
  let r := p.onShelf (p.shelf.remove id)
  let q := { r.2 with shelf := r.1.2 }
  match r.1.1 with
  | .error problem =>
    q.report ("Failed to delete entry " ++ toString id ++ ": " ++ problem.message)
  | .ok _ =>
    let forget (s : Session) : Session := if s.entry == some id then { s with entry := none } else s
    { q with session := q.session.map forget }

/-- Asks the session for a reset. A reset also ends a halt. -/
def reset (p : Player) : Player :=
  match p.session with
  | none => p
  | some s => { p with session := some (s.request .reset), halted := false }

/-- Asks the session to halt or to resume. -/
def toggleHalt (p : Player) : Player :=
  match p.session with
  | none => p
  | some s => { p with session := some (s.request .toggleHalt), halted := !p.halted }

/-- Asks for a file and opens it, if one is picked. -/
def openPicked (p : Player) : Player :=
  match p.picks with
  | some path :: rest => { p with picks := rest }.openFile path
  | none :: rest => { p with picks := rest }
  | [] => p

/-- Notices that the console has stopped on its own. -/
def poll (p : Player) : Player :=
  match p.session with
  | none => p
  | some s =>
    if s.isEnded then
      let r := p.stopSession
      match r.1 with
      | some f => r.2.report (s.name ++ " stopped: " ++ f.message)
      | none => r.2.report (s.name ++ " stopped")
    else p

/-- Lets the keys hold the buttons of the joypad. -/
def hold (p : Player) : Player :=
  let isHeld (button : Button) : Bool := p.keys.any fun k => k.button == some button
  let joypad := Button.all.foldl (fun j button => j.set button (isHeld button)) p.joypad
  { p with joypad, session := p.session.map fun s => s.hold joypad }

/-- Takes the latest frame, if it is fresh. -/
def refresh (p : Player) : Player :=
  let r := p.cell.collect
  let q := match p.session with
    | some s => { p with session := some (s.withHandover r.2) }
    | none => { p with handover := r.2 }
  match r.1 with
  | some frame => { q with picture := some frame }
  | none => q

/-- Lets the session run on until its next frame. -/
def elapse (p : Player) : Player := { p with session := p.session.map Session.advance }

/-! ## The program -/

/-- The title of the window, given the frame rate as text. -/
def title (p : Player) (rate : String) : String :=
  match p.session with
  | some s => "NES Player - " ++ s.name ++ " - " ++ rate ++ " FPS"
  | none => "NES Player"

/-- A player that has started, and the size of its window. -/
structure Started where
  player : Player
  width : String
  height : String

/-- Starts the program on a command line. `noDisplay` says why no window can be opened. -/
def start (disk : Disk) (words : List String) (picks : List (Option String))
    (noDisplay : Option String) : Except (CommandLine.Outcome × Disk) Started :=
  match Options.grammar.parse words with
  | .ok .help => .error (.ofHelp Options.help, disk)
  | .error f => .error (.ofFault f, disk)
  | .ok (.settings s) =>
    let o := Options.ofSettings s
    let failed (message : String) (disk : Disk) : Except (CommandLine.Outcome × Disk) Started :=
      .error (.failed "" message, disk)
    let noShelf (p : Shelf.Problem) (disk : Disk) : Except (CommandLine.Outcome × Disk) Started :=
      failed ("Failed to open library " ++ o.shelf ++ ": " ++ p.message) disk
    match disk.createFolders o.shelf with
    | .error r => noShelf (.storage r) disk
    | .ok disk =>
      match (disk.run o.shelf Shelf.openShelf).1 with
      | .error p => noShelf p disk
      | .ok shelf =>
        match noDisplay with
        | some reason => failed ("Failed to run application: " ++ reason) disk
        | none =>
          let p := fresh disk o.shelf shelf o.scale picks
          let size := o.scale.windowSize
          .ok
            { player := match o.image with
                | some path => p.openFile path
                | none => p
              width := size.1.text
              height := size.2.text }

end Player

end Famicom
