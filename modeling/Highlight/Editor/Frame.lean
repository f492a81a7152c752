import Highlight.Editor.Controls

/-!
The frames of an editor. The toolbar and the status bar come before the surface, so that they show
what the frame before has led to.
-/

set_option autoImplicit false

namespace Highlight

structure EditorPainting where
  toolbar : List String
  status : List String
  surface : Painting
  /-- The outline, if it is shown in the place of the text. -/
  outline : Option (List ColoredText)
  deriving DecidableEq, Repr

inductive EditorStep where
  | receive (event : InputEvent)
  | select (selection : Selection)
  | rest
  | setLanguage (language : Language)
  | setValue (value : String)
  | revalidate
  | setMode (mode : ThemeMode)
  | switch (switch : Switch) (isOn : Bool)
  | click (label : String)
  | choose (menu : Menu) (item : String)
  deriving DecidableEq, Repr

namespace Editor

section

variable (editor : Editor)

def surfaceName : String :=
  "code_surface"

def surface : Surface :=
  ⟨surfaceName, editor.value, editor.memory⟩

def afterSurface (surface : Surface) (report : FrameReport) : Editor :=
  let after :=
    { editor with
      value := surface.value
      memory := surface.memory
      caret := report.caret <|> editor.caret
      lastKey := (report.presses.getLast?.map (·.key)) <|> editor.lastKey }
  match report.change with
  | some change =>
    { after with lineCount := change.lineCount, changeCount := after.changeCount + 1 }.revalidate
  | none => after

def showText (events : List InputEvent) : Editor × Painting × Option (List ColoredText) :=
  let (surface, window, report) := editor.surface.frame editor.settings editor.window events
  ({ editor with window := window }.afterSurface surface report, report.painting, none)

def showOutline (rows : List OutlineRow) (events : List InputEvent) :
    Editor × Painting × Option (List ColoredText) :=
  let (window, area, view) := editor.surface.enterCover editor.settings editor.window
  let look : OutlineLook := ⟨editor.appearance, view, events⟩
  let visit := (OutlineVisit.start look window editor.openness).rows look rows
  let (surface, window) :=
    editor.surface.leaveCover visit.window area view (visit.page look)
  ({ editor with window := window, memory := surface.memory, openness := visit.openness },
    FrameReport.covered.painting, some visit.texts)

def showSurface (events : List InputEvent) : Editor × Painting × Option (List ColoredText) :=
  match editor.outlined? with
  | some json => editor.showOutline (editor.openness.rows json) events
  | none => editor.showText events

def frame (events : List InputEvent) : Editor × EditorPainting :=
  let begun := { editor with window := editor.window.begin events }
  let met := begun.meetToolbar events
  let (shown, painting, outline) := met.showSurface events
  ({ shown with window := shown.window.finish events },
    { toolbar := met.toolbarTexts
      status := met.statusTexts
      surface := painting
      outline := outline })

/-- Some frames in a row, after one that left a painting. -/
def framesAfter (editor : Editor) (painting : EditorPainting) :
    List (List InputEvent) → Editor × EditorPainting
  | [] => (editor, painting)
  | events :: others =>
    let (next, own) := editor.frame events
    next.framesAfter own others

/-- Frames without events as long as they are due, but at most some number of them. -/
def settleAfter (editor : Editor) (painting : EditorPainting) : Nat → Editor × EditorPainting
  | 0 => (editor, painting)
  | fuel + 1 =>
    if editor.window.clock.isDue then
      let (next, own) := editor.frame []
      next.settleAfter own fuel
    else (editor, painting)

def runFrames (events : List InputEvent) (others : List (List InputEvent)) :
    Editor × EditorPainting :=
  let (first, painting) := editor.frame events
  let (next, painting) := first.framesAfter painting others
  next.settleAfter painting Clock.mostRepeats

def rest : Editor × EditorPainting :=
  editor.runFrames [] []

def receive (event : InputEvent) : Editor × EditorPainting :=
  match event.frames with
  | events :: others => editor.runFrames events others
  | [] => editor.rest

def click (label : String) : Editor × EditorPainting :=
  if editor.canClick label then editor.receive (.clicked (editor.targetOf? label))
  else editor.rest

def clickMenu (menu : Menu) : Editor × EditorPainting :=
  editor.receive (.clicked (some (.menu menu)))

def openedMenu (menu : Menu) : Editor :=
  if editor.openMenu.any (·.menu == menu) then editor else (editor.clickMenu menu).1

/-- Chooses something from a menu, if it can be found there. The menu is opened before and closed
after it. -/
def pick (menu : Menu) (item : String) : Editor × EditorPainting :=
  let opened := editor.openedMenu menu
  match opened.indexOf? item menu with
  | some index =>
    (opened.receive (.clicked (some (.menuItem menu index)))).1.clickMenu menu
  | none => opened.clickMenu menu

def step : EditorStep → Editor × EditorPainting
  | .receive event => editor.receive event
  | .select selection => (editor.select selection).rest
  | .rest => editor.rest
  | .setLanguage language => (editor.setLanguage language).rest
  | .setValue value => (editor.setValue value).rest
  | .revalidate => editor.revalidate.rest
  | .setMode mode => (editor.setMode mode).rest
  | .switch switch isOn => (editor.setSwitch isOn switch).rest
  | .click label => editor.click label
  | .choose menu item => editor.pick menu item

def run (steps : List EditorStep) : Editor :=
  steps.foldl (fun editor step => (editor.step step).1) editor

/-- The editor when it has been shown until nothing was due any more. -/
def opened : Editor × EditorPainting :=
  editor.rest.1.rest

end

end Editor

end Highlight
