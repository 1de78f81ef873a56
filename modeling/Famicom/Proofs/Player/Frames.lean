import Famicom.Player

/-!
# No frame is lost on the way to the screen

Console and player meet in one cell from two threads, each in two steps: the console stores a frame
and marks it, the player clears the mark and copies the frame if it was marked. The steps interleave in
any way. Still the player never ends up with an old frame and no mark to tell it so.

* `Exchange.Turn`: a step of one side, in any order.
* `Exchange.Sound`: what every step keeps.
* `Exchange.upToDate_run`: what the player shows after any turns, and what when both sides rest.
* `Exchange.latest_run_settle`: both sides come to rest, and then the latest frame shows.
* `Exchange.cell_present`, `Exchange.matches_refresh`: console and player take these steps.
-/

namespace Famicom

open Picture

namespace Player

/-! ## Refreshing the picture -/

theorem cell_refresh (p : Player) : p.refresh.cell = p.cell.collect.2 := by
  unfold refresh
  generalize p.cell.collect = r
  obtain ⟨_ | frame, left⟩ := r <;> cases p.session <;> rfl

/-- A frame that is collected shows from then on. -/
theorem picture_refresh (p : Player) : p.refresh.picture = p.cell.collect.1.or p.picture := by
  unfold refresh
  generalize p.cell.collect = r
  obtain ⟨_ | frame, left⟩ := r <;> cases p.session <;> rfl

/-! ## Steps of both sides -/

/-- The cell between console and player, and how far each side is: whether the console has stored a
frame and not marked it yet, and whether the player has found the mark and not copied the frame yet.
The frames that were stored are listed latest first. -/
structure Exchange where
  cell : Handover
  storing : Bool
  looking : Bool
  picture : Option Frame
  stored : List Frame

namespace Exchange

/-- Nothing was stored yet. -/
def start : Exchange :=
  { cell := .blank, storing := false, looking := false, picture := none, stored := [] }

/-- The console stores a frame and marks it; the player clears the mark and copies the frame, having
found it marked. -/
inductive Turn where
  | store (frame : Frame)
  | mark
  | look
  | copy

/-- A turn of a side that is not there yet does nothing. -/
def turn (x : Exchange) : Turn → Exchange
  | .store frame =>
    if x.storing then x
    else { x with cell := x.cell.store frame, storing := true, stored := frame :: x.stored }
  | .mark => if x.storing then { x with cell := x.cell.mark, storing := false } else x
  | .look =>
    if x.looking then x else { x with cell := x.cell.unmark.2, looking := x.cell.unmark.1 }
  | .copy => if x.looking then { x with picture := some x.cell.frame, looking := false } else x

def run (x : Exchange) (turns : List Turn) : Exchange := turns.foldl turn x

theorem run_append (x : Exchange) (turns others : List Turn) :
    x.run (turns ++ others) = (x.run turns).run others := List.foldl_append

/-- Neither side is between its two steps, and the player has looked. -/
structure Quiet (x : Exchange) : Prop where
  stored : x.storing = false
  looked : x.looking = false
  unmarked : x.cell.fresh = false

/-! ## What every turn keeps -/

/-- The cell holds the frame that was stored last, a mark that is set, was found or is about to be
set stands for a frame, and what shows was stored. -/
structure Sound (x : Exchange) : Prop where
  cell : ∀ frame ∈ x.stored.head?, x.cell.frame = frame
  marked : x.cell.fresh = true ∨ x.looking = true ∨ x.storing = true → x.stored ≠ []
  shown : ∀ frame ∈ x.picture, frame ∈ x.stored
  latest : x.Quiet → x.picture = x.stored.head?

theorem sound_start : start.Sound where
  cell := nofun
  marked := nofun
  shown := nofun
  latest _ := rfl

namespace Sound

variable {x : Exchange} (sound : x.Sound)

include sound

theorem store (frame : Frame) : (x.turn (.store frame)).Sound := by
  unfold turn
  dsimp only
  split
  · exact sound
  · constructor
    case cell =>
      rintro _ ⟨⟩
      rfl
    case marked => exact fun _ => List.cons_ne_nil _ _
    case shown => exact fun other shows => List.mem_cons_of_mem _ (sound.shown other shows)
    case latest => exact fun quiet => nomatch quiet.stored

theorem mark : (x.turn .mark).Sound := by
  unfold turn
  dsimp only
  split
  · rename_i storing
    constructor
    case cell => exact sound.cell
    case marked => exact fun _ => sound.marked (.inr (.inr storing))
    case shown => exact sound.shown
    case latest => exact fun quiet => nomatch quiet.unmarked
  · exact sound

/-- If the mark was not set, then the player rests with the picture that it had. -/
theorem look : (x.turn .look).Sound := by
  unfold turn
  dsimp only
  split
  · exact sound
  · rename_i resting
    constructor
    case cell => exact sound.cell
    case marked =>
      rintro (marked | found | storing)
      · cases marked
      · exact sound.marked (.inl found)
      · exact sound.marked (.inr (.inr storing))
    case shown => exact sound.shown
    case latest =>
      intro quiet
      have before : x.Quiet :=
        { stored := quiet.stored, looked := by simpa using resting, unmarked := quiet.looked }
      exact sound.latest before

/-- What the player copies was stored last, whatever has happened since it found the mark. -/
theorem copy : (x.turn .copy).Sound := by
  unfold turn
  dsimp only
  split
  · rename_i looking
    obtain ⟨last, earlier, stored⟩ :=
      List.exists_cons_of_ne_nil (sound.marked (.inr (.inl looking)))
    have copied : x.cell.frame = last := sound.cell last (by rw [stored]; rfl)
    constructor
    case cell => exact sound.cell
    case marked => exact fun _ => sound.marked (.inr (.inl looking))
    case shown =>
      rintro _ ⟨⟩
      rw [copied, stored]
      exact List.mem_cons_self
    case latest =>
      intro _
      rw [copied, stored]
      rfl
  · exact sound

theorem turn (t : Turn) : (x.turn t).Sound := by
  cases t with
  | store frame => exact sound.store frame
  | mark => exact sound.mark
  | look => exact sound.look
  | copy => exact sound.copy

theorem run (turns : List Turn) : (x.run turns).Sound := by
  induction turns generalizing x with
  | nil => exact sound
  | cons t rest ih => exact ih (sound.turn t)

end Sound

/-! ## What shows -/

/-- What shows is a frame that was stored, and the latest one when both sides rest. -/
structure UpToDate (x : Exchange) : Prop where
  shown : x.picture = none ∨ ∃ frame ∈ x.stored, x.picture = some frame
  latest : x.Quiet → x.picture = x.stored.head?

/-- **No frame is lost**, however the steps of the two sides interleave. -/
theorem upToDate_run (turns : List Turn) : (start.run turns).UpToDate := by
  have sound := sound_start.run turns
  refine ⟨?_, sound.latest⟩
  cases shows : (start.run turns).picture with
  | none => exact .inl rfl
  | some frame => exact .inr ⟨frame, sound.shown frame shows, rfl⟩

/-- Both sides finish what they have begun, and the player looks once more. -/
def settle : List Turn := [.mark, .copy, .look, .copy]

theorem quiet_run_settle (x : Exchange) : (x.run settle).Quiet := by
  obtain ⟨⟨frame, fresh⟩, storing, looking, picture, stored⟩ := x
  cases fresh <;> cases storing <;> cases looking <;> constructor <;> rfl

theorem stored_run_settle (x : Exchange) : (x.run settle).stored = x.stored := by
  obtain ⟨⟨frame, fresh⟩, storing, looking, picture, stored⟩ := x
  cases fresh <;> cases storing <;> cases looking <;> rfl

/-- So both sides can come to rest from anywhere, and then the latest frame shows. -/
theorem latest_run_settle (turns : List Turn) :
    (start.run (turns ++ settle)).picture = (start.run turns).stored.head? := by
  have sound := sound_start.run (turns ++ settle)
  rw [sound.latest (by rw [run_append]; exact quiet_run_settle _), run_append, stored_run_settle]

/-! ## The two sides -/

/-- A sink of the console takes its two steps when it is shown a frame. -/
theorem cell_present (x : Exchange) (resting : x.storing = false) (frame : Frame) :
    (x.run [.store frame, .mark]).cell = (Console.FrameSink.present x.cell frame).1 := by
  simp [run, turn, resting, Console.FrameSink.present, Handover.publish]

/-- The player and the exchange share a cell and show the same picture. -/
structure Matches (x : Exchange) (p : Player) : Prop where
  cell : p.cell = x.cell
  picture : p.picture = x.picture

/-- The player takes its two steps when it refreshes its picture. -/
theorem matches_refresh {x : Exchange} {p : Player} (same : x.Matches p)
    (resting : x.looking = false) : (x.run [.look, .copy]).Matches p.refresh := by
  have cell : p.refresh.cell = x.cell.collect.2 := by
    rw [← same.cell]
    exact p.cell_refresh
  have picture : p.refresh.picture = x.cell.collect.1.or x.picture := by
    rw [← same.cell, ← same.picture]
    exact p.picture_refresh
  obtain ⟨⟨frame, fresh⟩, storing, looking, shown, stored⟩ := x
  obtain rfl : looking = false := resting
  cases fresh <;> exact ⟨cell, picture⟩

end Exchange

end Player

end Famicom
