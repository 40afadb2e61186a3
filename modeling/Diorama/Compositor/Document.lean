import Diorama.Card.Document
import Diorama.Compositor

/-!
# Frame reports as JSON

What one tick of the display clock did, for whoever watches the display from outside. How a share is
written is left to the watcher.
-/

namespace Diorama

def RenderState.toJson (state : RenderState) : Json :=
  .text state.label

def LayerContent.toJson : LayerContent → Json
  | .blank => .record [("content", .text "blank")]
  | .card location generation picture movies =>
    .record [("content", .text "card"), ("location", location.toJson),
      ("generation", .nat generation), ("picture", .orNull (picture.map Json.word)),
      ("movies_playing", .words movies)]
  | .transitionMovie frame => .record [("content", .text "transition_movie"), ("frame", .nat frame)]
  | .credits page => .record [("content", .text "credits"), ("page", .nat page.toNat)]

def Layer.toJson (share : Float32 → Json) (layer : Layer) : Json :=
  .record [("state", layer.state.toJson), ("alpha", share layer.alpha),
    ("content", layer.content.toJson), ("display", .text layer.text)]

def Hook.toJson (hook : Hook) : Json :=
  let (name, state) : String × Option RenderState :=
    match hook with
    | .render state => ("render", some state)
    | .composite => ("composite", none)
    | .flush state => ("post_flush", some state)
  .record [("hook", .text name), ("state", .orNull (state.map RenderState.toJson))]

/-- The states that a compositor shows and has yet to show, as members of an object. -/
def Compositor.members (compositor : Compositor) : List (String × Json) :=
  [("current", compositor.current.state.toJson),
    ("incoming", .orNull (compositor.incoming.map (·.view.state.toJson))),
    ("queued", .array (compositor.queued.map RenderState.toJson))]

def FrameReport.toJson (share : Float32 → Json) (report : FrameReport) : Json :=
  .record [("frame", .nat report.frame), ("current", report.current.toJson),
    ("incoming", .orNull (report.incoming.map RenderState.toJson)), ("blend", share report.blend),
    ("layers", .array (report.layers.map (Layer.toJson share))),
    ("hooks", .array (report.hooks.map Hook.toJson))]

end Diorama
