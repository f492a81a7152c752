import Highlight.Surface.Basic

/-!
A host of surfaces. It owns the value and shows one surface at a time, known by a name under which
the host keeps what the surface remembers. What is done arrives in frames of its own, and frames
without events follow as long as they are due.
-/

set_option autoImplicit false

namespace Highlight

/-- What a host decides by itself. -/
structure HostFields where
  value : String
  settings : SurfaceSettings
  /-- A label that is shown in the place of the text. -/
  cover : Option String
  /-- The name of the surface that is shown. -/
  shown : String
  deriving DecidableEq, Repr

structure SurfaceHost extends HostFields where
  memories : List (String × SurfaceMemory)
  window : Window
  /-- The position that is asked for, until the next frame is over. -/
  wantedPosition : Option ScrollOffset
  deriving DecidableEq, Repr

/-- What a host learns of a frame: the report of the surface, and which labels are to be seen in the
place of the text. -/
structure HostReport extends FrameReport where
  labels : List String
  deriving DecidableEq, Repr

structure StepReport where
  presses : List Press
  changed : Bool
  changes : List ChangeReport
  wasScrolling : Bool
  last : HostReport
  deriving DecidableEq, Repr

namespace StepReport

def of (frame : HostReport) : StepReport where
  presses := frame.presses
  changed := frame.changed
  changes := frame.change.toList
  wasScrolling := frame.isScrolling
  last := frame

def andThen (first second : StepReport) : StepReport where
  presses := first.presses ++ second.presses
  changed := first.changed || second.changed
  changes := first.changes ++ second.changes
  wasScrolling := first.wasScrolling || second.wasScrolling
  last := second.last

end StepReport

inductive HostStep where
  | receive (event : InputEvent)
  | select (selection : Selection)
  | scrollTo (position : ScrollOffset)
  | blur
  | rest
  | set (fields : HostFields)
  deriving DecidableEq, Repr

namespace HostFields

def standardName : String :=
  "code_surface"

def standard (room : Room) : HostFields :=
  ⟨"", .standard room, none, standardName⟩

end HostFields

def labelPlace (view : AreaView) (label : String) : Rect :=
  let text := label.toList
  .ofCorner view.left view.top (.ofRat false (Caption.widest text)) (.ofNat (Caption.height text))

namespace SurfaceHost

def start (fields : HostFields) : SurfaceHost :=
  { fields with memories := [], window := .start, wantedPosition := none }

section

variable (host : SurfaceHost)

def memory : SurfaceMemory :=
  (host.memories.lookup host.shown).getD .fresh

def withMemory (memory : SurfaceMemory) : SurfaceHost :=
  { host with
    memories := (host.shown, memory) :: host.memories.filter fun (name, _) => name != host.shown }

def surface : Surface :=
  ⟨host.shown, host.value, host.memory⟩

def takePosition : SurfaceHost :=
  match host.wantedPosition with
  | some position =>
    let memory := host.memory
    { host.withMemory { memory with area := memory.area.withOffset position } with
      wantedPosition := none }
  | none => host

def afterFrame (surface : Surface) (window : Window) (events : List InputEvent) : SurfaceHost :=
  { host.withMemory surface.memory with
      value := surface.value
      window := window.finish events }.takePosition

def coveredFrame (label : String) (events : List InputEvent) : SurfaceHost × HostReport :=
  let (window, area, view) := host.surface.enterCover host.settings (host.window.begin events)
  let place := labelPlace view label
  let (surface, window) :=
    host.surface.leaveCover window area view ⟨place.across.length, place.down.length⟩
  (host.afterFrame surface window events,
    { FrameReport.covered with labels := if place.overlaps view.clip then [label] else [] })

def textFrame (events : List InputEvent) : SurfaceHost × HostReport :=
  let (surface, window, report) :=
    host.surface.frame host.settings (host.window.begin events) events
  (host.afterFrame surface window events, { report with labels := [] })

def frame (events : List InputEvent) : SurfaceHost × HostReport :=
  match host.cover with
  | some label => host.coveredFrame label events
  | none => host.textFrame events

/-- Some frames in a row, after others that have been reported on. -/
def framesAfter (host : SurfaceHost) (report : StepReport) :
    List (List InputEvent) → SurfaceHost × StepReport
  | [] => (host, report)
  | events :: others =>
    let (next, own) := host.frame events
    next.framesAfter (report.andThen (.of own)) others

/-- Frames without events as long as they are due, but at most some number of them. -/
def settleAfter (host : SurfaceHost) (report : StepReport) : Nat → SurfaceHost × StepReport
  | 0 => (host, report)
  | fuel + 1 =>
    if host.window.clock.isDue then
      let (next, own) := host.frame []
      next.settleAfter (report.andThen (.of own)) fuel
    else (host, report)

def runFrames (events : List InputEvent) (others : List (List InputEvent)) :
    SurfaceHost × StepReport :=
  let (first, report) := host.frame events
  let (next, report) := first.framesAfter (.of report) others
  next.settleAfter report Clock.mostRepeats

def rest : SurfaceHost × StepReport :=
  host.runFrames [] []

def receive (event : InputEvent) : SurfaceHost × StepReport :=
  match event.frames with
  | events :: others => host.runFrames events others
  | [] => host.rest

/-- Selects a stretch of the text. Offsets past the end count as the end once the surface has the
focus. -/
def select (selection : Selection) : SurfaceHost :=
  host.withMemory { host.memory with caret := some ⟨selection, none⟩ }

/-- Asks for another position, which is taken after the next frame. -/
def scrollTo (position : ScrollOffset) : SurfaceHost :=
  { host with wantedPosition := some position }

def blur : SurfaceHost :=
  { host with window := host.window.blur }

def step : HostStep → SurfaceHost × StepReport
  | .receive event => host.receive event
  | .select selection => (host.select selection).rest
  | .scrollTo position => (host.scrollTo position).rest
  | .blur => host.blur.rest
  | .rest => host.rest
  | .set fields => rest { host with toHostFields := fields }

def run (steps : List HostStep) : SurfaceHost :=
  steps.foldl (fun host step => (host.step step).1) host

end

def opened (fields : HostFields) : SurfaceHost × StepReport :=
  (start fields).rest.1.rest

end SurfaceHost

end Highlight
