import Highlight.Editor.OutlineView
import Highlight.Editor.Basic

/-!
What can be done with an editor besides typing: its boxes can be ticked, and something can be chosen
from its menus. An open menu shows its items below itself, until it is pressed again, another one
is opened, or the escape key is pressed.
-/

set_option autoImplicit false

namespace Highlight

namespace Menu

def label : Menu → String
  | language => "Language"
  | theme => "Theme"

end Menu

namespace Switch

def all : List Switch :=
  [readOnly, lineNumbers, fillHeight, outline]

def label : Switch → String
  | readOnly => "Read-only mode"
  | lineNumbers => "Line numbers"
  | fillHeight => "Fill height"
  | outline => "Tree view"

end Switch

namespace Editor

section

variable (editor : Editor)

def isOn : Switch → Bool
  | .readOnly => editor.isReadOnly
  | .lineNumbers => editor.showsNumbers
  | .fillHeight => editor.fillsHeight
  | .outline => editor.prefersOutline

def setSwitch (isOn : Bool) : Switch → Editor
  | .readOnly => { editor with isReadOnly := isOn }
  | .fillHeight => { editor with fillsHeight := isOn }
  | .lineNumbers => { editor with showsNumbers := isOn }
  | .outline => { editor with prefersOutline := isOn }

/-- Can a box be ticked? Only JSON can be shown as an outline. -/
def isEnabled : Switch → Bool
  | .outline => editor.language == .json
  | _ => true

def modeNames : List String :=
  ThemeMode.system.name :: editor.themes.map (·.name)

def items : Menu → List String
  | .language => Language.all.map (·.label)
  | .theme => editor.modeNames

def chosenItem : Menu → String
  | .language => editor.language.label
  | .theme => editor.mode.name

def choose (menu : Menu) (index : Nat) : Editor :=
  match menu with
  | .language =>
    match Language.all[index]? with
    | some language => editor.setLanguage language
    | none => editor
  | .theme =>
    match editor.modeNames[index]? with
    | some name => editor.setMode ⟨name⟩
    | none => editor

def programName : String :=
  "codepane"

def toolbarTexts : List String :=
  let all :=
    [programName, editor.language.label, Menu.language.label] ++
      Switch.all.map (·.label) ++ [editor.mode.name, Menu.theme.label]
  all.filter (· != "")

def positionText : String :=
  let place := Position.ofOffset editor.value (editor.caret.getD 0)
  "Ln " ++ toString place.line ++ ", Col " ++ toString place.column

def statusTexts : List String :=
  [editor.positionText, toString editor.lineCount ++ " lines",
      "Syntax: " ++ editor.language.label] ++
    (if editor.isReadOnly then ["Read-only"] else []) ++ editor.validation.message?.toList

/-- What a text belongs to that can be clicked. Of several groups with one title it is the last. -/
def targetOf? (label : String) : Option Target :=
  match Switch.all.find? (·.label == label) with
  | some switch => some (.box switch)
  | none =>
    ((OutlineRow.groups editor.outlineRows).reverse.find? (·.2 == label)).map fun (path, _) =>
      .group path

def showsText (text : String) : Bool :=
  editor.toolbarTexts.contains text || editor.statusTexts.contains text ||
    editor.outlineRows.any fun
      | .leaf _ label value => OutlineRow.leafLabel label == text || value.compact == text
      | _ => false

def canClick (label : String) : Bool :=
  (editor.targetOf? label).isSome || editor.showsText label

def indexOf? (item : String) (menu : Menu) : Option Nat :=
  (editor.items menu).findIdx? (· == item)

def offers (item : String) (menu : Menu) : Bool :=
  (editor.indexOf? item menu).isSome

end

end Editor

/-! The places of the toolbar, in points from the upper left corner of the window. -/

namespace Toolbar

def margin : Rat :=
  8

def gap : Rat :=
  8

/-- The width of a line between two groups of things. -/
def separator : Rat :=
  6

def boxSize : Rat :=
  18

/-- The room for the margins and the mark of a menu, besides its text. -/
def menuPadding : Rat :=
  34

def leastMenuWidth : Rat :=
  100

def menuRows : Stretch :=
  ⟨.ofNat 4, .ofNat 27⟩

def boxRows : Stretch :=
  ⟨.ofRat false (mkRat 13 2), .ofRat false (mkRat 49 2)⟩

def widthOf (text : String) : Rat :=
  Caption.width text.toList

def across (left width : Rat) : Stretch :=
  ⟨.ofRat false left, .ofRat false (left + width)⟩

def menuWidth (chosen : String) : Rat :=
  greater leastMenuWidth (widthOf chosen + menuPadding)

def boxWidth (switch : Switch) : Rat :=
  boxSize + widthOf switch.label

/-- From the end of a text to the next thing behind a line. -/
def division : Rat :=
  gap + separator + gap

def languageLeft : Rat :=
  margin + widthOf Editor.programName + division

def boxesLeft (editor : Editor) : Rat :=
  languageLeft + menuWidth editor.language.label + gap + widthOf Menu.language.label + division

def boxesWidth (switches : List Switch) : Rat :=
  (switches.map fun switch => boxWidth switch + gap).foldr (· + ·) 0

def boxPlace (editor : Editor) (switch : Switch) : Rect :=
  let left := boxesLeft editor + boxesWidth (Switch.all.takeWhile (· != switch))
  ⟨across left (boxWidth switch), boxRows⟩

def menuLeft (editor : Editor) : Menu → Rat
  | .language => languageLeft
  | .theme => boxesLeft editor + boxesWidth Switch.all + separator + gap

def menuPlace (editor : Editor) (menu : Menu) : Rect :=
  ⟨across (menuLeft editor menu) (menuWidth (editor.chosenItem menu)), menuRows⟩

/-! The items of an open menu. -/

def itemIndent : Single :=
  .ofNat 7

def itemsTop : Nat :=
  34

def itemHeight : Nat :=
  23

def itemGap : Nat :=
  6

/-- The greatest height of the items that are to be seen. -/
def pageHeight : Nat :=
  200

def itemsHeight (count : Nat) : Nat :=
  count * (itemHeight + itemGap) - itemGap

def itemsAcross (menu : Rect) : Stretch :=
  menu.across.moveBy itemIndent

def itemPlace (menu : Rect) (index : Nat) : Rect :=
  let top := itemsTop + index * (itemHeight + itemGap)
  ⟨itemsAcross menu, ⟨.ofNat top, .ofNat (top + itemHeight)⟩⟩

def pagePlace (menu : Rect) (count : Nat) : Rect :=
  ⟨itemsAcross menu, ⟨.ofNat itemsTop, .ofNat (itemsTop + min (itemsHeight count) pageHeight)⟩⟩

end Toolbar

namespace Editor

section

variable (editor : Editor)

/-- Lets a target be visited that can be pressed, and tells whether it was. -/
def meet (target : Target) (place : Rect) (isEnabled : Bool) (events : List InputEvent) :
    Editor × Bool :=
  let window := editor.window.meet target place isEnabled
  ({ editor with window := window }, isEnabled && window.isActivated target events)

def meetBox (events : List InputEvent) (switch : Switch) : Editor :=
  let (met, isPressed) :=
    editor.meet (.box switch) (Toolbar.boxPlace editor switch) (editor.isEnabled switch) events
  if isPressed then met.setSwitch (!met.isOn switch) switch else met

def meetItem (menu : Menu) (place : Rect) (events : List InputEvent) (index : Nat) : Editor :=
  let (met, isPressed) :=
    editor.meet (.menuItem menu index) (Toolbar.itemPlace place index) true events
  if isPressed then met.choose menu index else met

/-- A frame of the items of an open menu. When there are more than fit, they have a bar, and from
the next frame on their page can have the focus. -/
def meetItems (menu : Menu) (place : Rect) (frames : Nat) (events : List InputEvent) : Editor :=
  let count := (editor.items menu).length
  let page := Toolbar.pagePlace place count
  let isLong := Toolbar.pageHeight < Toolbar.itemsHeight count
  let start :=
    if isLong && 1 < frames then (editor.meet (.menuPage menu) page true events).1 else editor
  let chosen := (List.range count).foldl (fun editor => meetItem editor menu place events) start
  if isLong then
    (chosen.meet (.menuBar menu) (ScrollArea.barPlace page .vertical) true events).1
  else chosen

def toggleMenu (menu : Menu) : Editor :=
  if editor.openMenu.any (·.menu == menu) then { editor with openMenu := none }
  else { editor with openMenu := some ⟨menu, 0⟩, window := editor.window.demandIf true }

/-- A frame of a menu. Its items appear in the frame after the one in which it is opened. -/
def meetMenu (events : List InputEvent) (menu : Menu) : Editor :=
  let place := Toolbar.menuPlace editor menu
  let (met, isPressed) := editor.meet (.menu menu) place true events
  let toggled := if isPressed then met.toggleMenu menu else met
  match toggled.openMenu with
  | none => toggled
  | some opened =>
    if opened.menu != menu then toggled
    else
      let shown :=
        if opened.frames = 0 then toggled else toggled.meetItems menu place opened.frames events
      if events.any (·.isPressOf .escape) then { shown with openMenu := none }
      else { shown with openMenu := some ⟨menu, opened.frames + 1⟩ }

def meetToolbar (events : List InputEvent) : Editor :=
  let boxes := Switch.all.foldl (meetBox · events) (editor.meetMenu events .language)
  boxes.meetMenu events .theme

end

end Editor

end Highlight
