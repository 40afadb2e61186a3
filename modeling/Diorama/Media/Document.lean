import Diorama.Card.Document
import Diorama.Media

/-!
# Media as JSON

What is to be played says by its key `kind` which sort of media it is, and a request to the player by its
key `event` what the player is to do.
-/

namespace Diorama

open Json

namespace MediaRef

def toJson : MediaRef → Json
  | .movie code id looping =>
    .record [("kind", .text "movie"), ("code", .word code), ("movie", .word id),
      ("looping", .bool looping)]
  | .sound id volume =>
    .record [("kind", .text "sound"), ("id", .word id), ("volume", .word volume)]
  | .soundGroup index sounds volume looping =>
    .record [("kind", .text "sound_group"), ("index", .word index), ("sounds", .words sounds),
      ("volume", .word volume), ("looping", .bool looping)]

def decode : Decoder MediaRef := fun reading value => do
  let fields ← Fields.of?
    ["kind", "code", "movie", "looping", "id", "volume", "index", "sounds"] reading value
  match ← fields.required "kind" .text with
  | "movie" =>
    return .movie (← fields.required "code" .word) (← fields.required "movie" .word)
      (← fields.required "looping" .bool)
  | "sound" => return .sound (← fields.required "id" .word) (← fields.required "volume" .word)
  | "sound_group" =>
    return .soundGroup (← fields.required "index" .word) (← fields.required "sounds" (.array .word))
      (← fields.required "volume" .word) (← fields.required "looping" .bool)
  | _ => none

end MediaRef

def MediaRequest.toJson : MediaRequest → Json
  | .start media blocking =>
    .record [("event", .text "start"), ("media", media.toJson), ("blocking", .bool blocking)]
  | .stop media => .record [("event", .text "stop"), ("media", media.toJson)]

end Diorama
