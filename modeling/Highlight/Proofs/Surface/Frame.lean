import Highlight.Proofs.DocumentCache
import Highlight.Surface.Basic

/-!
One frame of a surface. Whatever it remembers, as long as the remembered document is a fresh
computation, the text that is painted is the one at the end of the frame, and the layout beside it
is made for the one at the beginning of the frame, after the tab key.
-/

set_option autoImplicit false

namespace Highlight

namespace SurfaceMemory

/-- Is the document that is remembered a fresh computation? -/
def IsFresh (memory : SurfaceMemory) : Prop :=
  memory.documents.IsFresh

theorem isFresh_fresh : fresh.IsFresh :=
  DocumentCache.isFresh_empty

/-- A document is computed as if nothing were remembered, and nothing but the memory for documents
changes. -/
theorem IsFresh.document {memory : SurfaceMemory} (isFresh : memory.IsFresh) (value : String)
    (language : Language) :
    ∃ documents : DocumentCache, documents.IsFresh ∧
      memory.document value language =
        (.compute value language, { memory with documents := documents }) := by
  obtain ⟨computed, remains⟩ := isFresh.get value language
  exact ⟨_, remains, congrArg (·, _) computed⟩

end SurfaceMemory

namespace Draft

@[simp] theorem documents_indent (draft : Draft) (events : List InputEvent) :
    (draft.indent events).1.memory.documents = draft.memory.documents := by
  unfold indent
  split <;> rfl

@[simp] theorem documents_receive (draft : Draft) (settings : SurfaceSettings)
    (events : List InputEvent) :
    (draft.receive settings events).memory.documents = draft.memory.documents := rfl

@[simp] theorem value_receive_nil (draft : Draft) (settings : SurfaceSettings) :
    (draft.receive settings []).value = draft.value := rfl

end Draft

namespace TextFrame

variable (frame : TextFrame) (settings : SurfaceSettings)

@[simp] theorem documents_edited :
    (frame.edited settings).memory.documents = frame.draft.memory.documents := by
  unfold edited
  split <;> rfl

theorem value_edited_of_nil (quiet : frame.events = []) :
    (frame.edited settings).value = frame.draft.value := by
  unfold edited
  split
  · rw [quiet, Draft.value_receive_nil]
  · rfl

end TextFrame

namespace Surface

variable (surface : Surface) (settings : SurfaceSettings) (window : Window)

@[simp] theorem documents_takeTabs (hadFocus : Bool) (events : List InputEvent) :
    (surface.takeTabs settings hadFocus events).1.memory.documents =
      surface.memory.documents := by
  unfold takeTabs
  dsimp only
  split
  · rw [Draft.documents_indent]
  · rfl

@[simp] theorem takeTabs_nil (hadFocus : Bool) :
    surface.takeTabs settings hadFocus [] =
      (⟨surface.value, surface.memory, false, false⟩, []) := by
  simp [takeTabs, Draft.indent]

theorem enterText_nil :
    let frame := surface.enterText settings window []
    frame.draft.value = surface.value ∧ frame.events = [] := by
  simp [enterText]

variable {surface}

/-- The beginning of a frame keeps the memory fresh, and the layout is made for the value then. -/
theorem enterText_fresh (isFresh : surface.memory.IsFresh) (events : List InputEvent) :
    let frame := surface.enterText settings window events
    frame.draft.memory.IsFresh ∧
      frame.text.layout = settings.layout (lines frame.draft.value).length := by
  have indentedFresh (hadFocus : Bool) :
      (surface.takeTabs settings hadFocus events).1.memory.IsFresh := by
    rw [SurfaceMemory.IsFresh, documents_takeTabs]
    exact isFresh
  obtain ⟨documents, remains, computed⟩ :=
    (indentedFresh (window.focus.isAt surface.target)).document
      (surface.takeTabs settings (window.focus.isAt surface.target) events).1.value
      settings.language
  simp only [enterText, computed]
  exact ⟨remains, rfl⟩

/-- The text of the value at the end of a frame is painted, and the memory stays fresh. -/
theorem frame_fresh (isFresh : surface.memory.IsFresh) (events : List InputEvent) :
    let (after, _, report) := surface.frame settings window events
    after.memory.IsFresh ∧
      report.painting.overlay =
        some ((Document.compute after.value settings.language).paintedText settings.appearance) ∧
      report.painting.tints =
        settings.flagged.tints settings.appearance (lines after.value).length ∧
      report.painting.hasGutter = settings.showsNumbers := by
  obtain ⟨enteredFresh, -⟩ := enterText_fresh settings window isFresh events
  have editedFresh :
      ((surface.enterText settings window events).edited settings).memory.IsFresh := by
    rw [SurfaceMemory.IsFresh, TextFrame.documents_edited]
    exact enteredFresh
  obtain ⟨documents, remains, computed⟩ :=
    editedFresh.document ((surface.enterText settings window events).edited settings).value
      settings.language
  have documentsFresh : SurfaceMemory.IsFresh
      { ((surface.enterText settings window events).edited settings).memory with
        documents := documents } := remains
  obtain ⟨others, othersFresh, again⟩ := documentsFresh.document
    ((surface.enterText settings window events).edited settings).value settings.language
  simp only [frame, computed, again]
  exact ⟨othersFresh, rfl, rfl, rfl⟩

/-- A frame without events leaves the value as it is, and the layout is made for it. -/
theorem frame_nil (isFresh : surface.memory.IsFresh) :
    let (after, _, report) := surface.frame settings window []
    after.value = surface.value ∧
      report.layout = settings.layout (lines surface.value).length := by
  obtain ⟨-, layout⟩ := enterText_fresh settings window isFresh []
  obtain ⟨value, quiet⟩ := surface.enterText_nil settings window
  have kept := (TextFrame.value_edited_of_nil _ settings quiet).trans value
  rw [value] at layout
  exact ⟨kept, layout⟩

end Surface

end Highlight
