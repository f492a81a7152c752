import Highlight.Document.Cache
import Highlight.Document.TextField
import Highlight.Surface.Extent
import Highlight.Surface.Painting

/-!
A surface on which a text is shown and edited, one frame at a time. The value belongs to the host; a
surface only remembers where its caret is, which document it showed last, and how far it is
scrolled. In a frame it takes in what was done at the keyboard, tells the host of it, and paints the
text as it is then. A host can show something else in the place of the text.
-/

set_option autoImplicit false

namespace Highlight

structure SurfaceSettings where
  language : Language
  isReadOnly : Bool
  placeholder : Option String
  flagged : FlaggedLines
  fillsHeight : Bool
  showsNumbers : Bool
  heights : HeightBounds
  appearance : Appearance
  /-- Does the surface take the focus when nothing has it? -/
  takesFocus : Bool
  room : Room
  deriving DecidableEq, Repr

namespace SurfaceSettings

def standard (room : Room) : SurfaceSettings where
  language := .standard
  isReadOnly := false
  placeholder := none
  flagged := .empty
  fillsHeight := false
  showsNumbers := true
  heights := .standard
  appearance := .standard
  takesFocus := true
  room := room

def wantHeights (settings : SurfaceSettings) (least greatest : Single) : SurfaceSettings :=
  { settings with heights := .of least greatest }

end SurfaceSettings

structure SurfaceMemory where
  /-- Where the caret is, once there has been one. -/
  caret : Option CaretState
  documents : DocumentCache
  area : ScrollArea
  scroll : ScrollState
  deriving DecidableEq, Repr

namespace SurfaceMemory

def fresh : SurfaceMemory :=
  ⟨none, .empty, .start, .start⟩

instance : Inhabited SurfaceMemory :=
  ⟨fresh⟩

end SurfaceMemory

structure Surface where
  name : String
  value : String
  memory : SurfaceMemory
  deriving DecidableEq, Repr

/-- What is to be seen of a surface. Without a text there is neither overlay nor gutter. -/
structure Painting where
  overlay : Option (List ColoredText)
  tints : List (Nat × PaintedColor)
  labels : List ColoredText
  hasGutter : Bool
  hasPlaceholder : Bool
  deriving DecidableEq, Repr

structure FrameReport where
  /-- The keys that were pressed while the surface had the focus. -/
  presses : List Press
  changed : Bool
  /-- What listeners to changes are told. -/
  change : Option ChangeReport
  caret : Option Nat
  layout : GutterLayout Single
  isScrolling : Bool
  painting : Painting
  deriving DecidableEq, Repr

namespace SurfaceMemory

/-- The selection, which is at the end of the text when there has been no caret. -/
def selectionIn (memory : SurfaceMemory) (value : String) : Selection :=
  match memory.caret with
  | some caret => caret.selection
  | none => .collapsed value.length

def document (memory : SurfaceMemory) (value : String) (language : Language) :
    Document × SurfaceMemory :=
  let (stored, documents) := memory.documents.get value language
  (stored.document, { memory with documents := documents })

end SurfaceMemory

/-- A value in the middle of a frame. -/
structure Draft where
  value : String
  memory : SurfaceMemory
  changed : Bool
  /-- Did an event at the text change it, or move the caret? -/
  isMoved : Bool
  deriving DecidableEq, Repr

namespace Draft

/-- Indents at the caret if the tab key was pressed alone, and leaves the other events. However
often it was, there is one step of indentation a frame. -/
def indent (draft : Draft) (events : List InputEvent) : Draft × List InputEvent :=
  if events.any (·.isPlain .tab) then
    let splice := insertIndent draft.value (draft.memory.selectionIn draft.value)
    ({ draft with
        value := splice.value
        memory := { draft.memory with caret := some (.collapsed splice.caret) }
        changed := true },
      events.filter (!·.isPlain .tab))
  else (draft, events)

/-- The text field for the value. A caret that is not known yet is at the end. -/
def field (draft : Draft) (settings : SurfaceSettings) : TextField :=
  let caret := draft.memory.caret.getD (.collapsed draft.value.length)
  { value := draft.value
    caret := caret.within draft.value.length
    locked := settings.isReadOnly
    letters := settings.appearance.letters }

def receive (draft : Draft) (settings : SurfaceSettings) (events : List InputEvent) : Draft :=
  let before := draft.field settings
  let (field, changes) := before.receiveAll events
  { value := field.value
    memory := { draft.memory with caret := some field.caret }
    changed := draft.changed || (changes && !settings.isReadOnly)
    isMoved := changes || (draft.memory.caret.isSome && field.caret != before.caret) }

end Draft

namespace SurfaceSettings

variable (settings : SurfaceSettings)

def layout (lineCount : Nat) : GutterLayout Single :=
  .compute lineCount settings.appearance.letters.cellWidth settings.showsNumbers

def viewport (contentHeight : Single) : Size :=
  ⟨Extent.inside settings.room.size.width,
    Extent.inside
      (Extent.boxHeight settings.room.size.height settings.fillsHeight settings.heights
        contentHeight)⟩

def view (area : ScrollArea) (contentHeight : Single) : AreaView :=
  area.view (settings.viewport contentHeight) (settings.room.left.add Extent.border)
    (settings.room.top.add Extent.border) settings.room.floor

def numberedRows (view : AreaView) (area : ScrollArea) (lineCount : Nat) : RowRange :=
  visibleRows (area.down.offset.sub Extent.endMargin) view.size.height
    settings.appearance.letters.rowHeight lineCount

def painting (document : Document) (rows : RowRange) (isInView : Bool) : Painting where
  overlay := some (document.paintedText settings.appearance)
  tints := settings.flagged.tints settings.appearance document.lineCount
  labels :=
    if settings.showsNumbers then settings.flagged.labels settings.appearance rows else []
  hasGutter := settings.showsNumbers
  hasPlaceholder :=
    document.value.isEmpty && settings.placeholder.any (!·.isEmpty) && isInView

end SurfaceSettings

def FrameReport.covered : FrameReport where
  presses := []
  changed := false
  change := none
  caret := none
  layout := .compute 1 (.zero false) false
  isScrolling := false
  painting := ⟨none, [], [], false, false⟩

structure TextView where
  view : AreaView
  layout : GutterLayout Single
  letters : Letters
  value : String
  size : Size
  /-- The size of the text with the empty space around it. -/
  room : Size
  deriving DecidableEq, Repr

namespace TextView

def of (view : AreaView) (layout : GutterLayout Single) (letters : Letters) (value : String) :
    TextView :=
  let size := letters.sizeOf value.toList
  ⟨view, layout, letters, value, size,
    Extent.textRoom letters view.size layout.contentPadding size⟩

variable (text : TextView)

/-- Where the text with the empty space around it is. -/
def outline : Rect :=
  .ofCorner (text.view.left.add text.layout.contentPadding) text.view.top text.room.width
    text.room.height

def place : Rect :=
  Extent.textPlace text.outline

def isInView : Bool :=
  text.place.meets text.view.clip

def page : Size :=
  ⟨text.layout.contentPadding.add text.room.width, text.room.height⟩

def sizeAfter (value : String) : Size :=
  if value = text.value then text.size else text.letters.sizeOf value.toList

def pageAfter (value : String) : Size :=
  if text.isInView then Extent.grown text.page text.place (text.sizeAfter value) else text.page

def caretPlace (value : String) (offset : Nat) : Rect :=
  let place := Position.ofOffset value offset
  let line := ((Text.cut '\n' value.toList)[place.line - 1]?).getD []
  Extent.caretPlace text.letters text.place
    ((text.letters.setLine line).placeOf (place.column - 1))
    (text.letters.rowsHeight (place.line - 1))

end TextView

/-- A frame in which a text is shown, before any event has arrived at the text. -/
structure TextFrame where
  draft : Draft
  /-- The events that are left for the text. -/
  events : List InputEvent
  /-- Had the text the focus when the frame began? -/
  hadFocus : Bool
  hasFocus : Bool
  area : ScrollArea
  text : TextView
  window : Window
  deriving DecidableEq, Repr

def TextFrame.edited (frame : TextFrame) (settings : SurfaceSettings) : Draft :=
  if frame.hasFocus then frame.draft.receive settings frame.events else frame.draft

namespace Surface

def start (name value : String) : Surface :=
  ⟨name, value, .fresh⟩

variable (surface : Surface)

def target : Target :=
  .text surface.name

/-- The value and the memory when a frame begins, and the events that are left for the text. -/
def takeTabs (settings : SurfaceSettings) (hadFocus : Bool) (events : List InputEvent) :
    Draft × List InputEvent :=
  let start : Draft := ⟨surface.value, surface.memory, false, false⟩
  if hadFocus && !settings.isReadOnly then start.indent events else (start, events)

/-- The window when the text has been met where it is. A text that has had the focus for a while
keeps the keys that would move it. -/
def meetText (window : Window) (text : TextView) : Window :=
  let met := window.meet surface.target text.outline true
  { met with focus := met.focus.keepKeys surface.target }

def enterText (settings : SurfaceSettings) (window : Window) (events : List InputEvent) :
    TextFrame :=
  let hadFocus := window.focus.isAt surface.target
  let (indented, others) := surface.takeTabs settings hadFocus events
  let (document, memory) := indented.memory.document indented.value settings.language
  let letters := settings.appearance.letters
  let (entered, area) :=
    (window.offerIf settings.takesFocus surface.target).enterArea surface.name memory.area
  let view := settings.view area (letters.rowsHeight document.lineCount)
  let text := TextView.of view (settings.layout document.lineCount) letters indented.value
  let met := surface.meetText entered text
  { draft := { indented with memory := memory }
    events := others
    hadFocus := hadFocus
    hasFocus := met.focus.isAt surface.target
    area := area
    text := text
    window := met }

def frame (settings : SurfaceSettings) (window : Window) (events : List InputEvent) :
    Surface × Window × FrameReport :=
  let start := surface.enterText settings window events
  let text := start.text
  let draft := start.edited settings
  let caret := if start.hasFocus then draft.memory.caret.map (·.selection.caret) else none
  let wanted :=
    if text.isInView && draft.isMoved then caret.map (text.caretPlace draft.value) else none
  let (left, area) :=
    start.window.leaveArea surface.name start.area text.view
      (text.pageAfter draft.value) wanted
  let (document, memory) := draft.memory.document draft.value settings.language
  let scroll := memory.scroll.observe area.offset
  -- The line numbers ask for the document on their own.
  let (numbered, memory) := memory.document draft.value settings.language
  let hasNewLayout := draft.changed && settings.layout numbered.lineCount != text.layout
  ({ surface with
      value := draft.value
      memory := { memory with area := area, scroll := scroll } },
    left.demandIf (scroll.moving || hasNewLayout),
    { presses := if start.hadFocus then events.filterMap (·.press?) else []
      changed := draft.changed
      change := if draft.changed then some (.of draft.value) else none
      caret := caret
      layout := text.layout
      isScrolling := scroll.moving
      painting :=
        settings.painting document (settings.numberedRows text.view area numbered.lineCount)
          text.isInView })

/-- The beginning of a frame in which something else is shown: the area that it is shown in. -/
def enterCover (settings : SurfaceSettings) (window : Window) : Window × ScrollArea × AreaView :=
  let (window, area) := window.enterArea surface.name surface.memory.area
  (window, area, settings.view area Extent.coverHeight)

def leaveCover (window : Window) (area : ScrollArea) (view : AreaView) (content : Size) :
    Surface × Window :=
  let (window, area) := window.leaveArea surface.name area view content none
  ({ surface with memory := { surface.memory with area := area } }, window)

end Surface

end Highlight
