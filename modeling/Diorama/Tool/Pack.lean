import Diorama.Manifest
import Diorama.Tool.Arguments
import Diorama.Tool.Host

/-!
# The packing tool

Packs a manifest into an archive file.
-/

namespace Diorama.Pack

/-- The name and version of the packing tool. -/
def version : String := "rx_formats 0.1.0"

/-- What the packing tool takes: the manifest, and the archive to be made. -/
def grammar : CommandGrammar where
  options := [{ name := "out", letter := some 'o', accepts := isPath }]
  operands := 1

variable {m : Type → Type} [Monad m] [Host m]

/-- Packs the manifest in one file into another. -/
def pack (source target : String) : Task m Unit := do
  match StackManifest.load source (← Task.read source) with
  | .error error => throw error.failure
  | .ok manifest =>
    match manifest.pack with
    | .error error => throw (.during s!"packing {source}" ⟨error.causes⟩)
    | .ok resources =>
      match Resource.layout resources with
      | .error error => throw ⟨error.causes⟩
      | .ok octets =>
        Task.write s!"creating {target}" target octets
        Task.print
          s!"Packed {manifest.cards.length} cards ({resources.length} resources) into {target}"

def run (arguments : List String) : m Ending :=
  match grammar.parse arguments with
  | none => return .misused
  | some .version => Task.ending (Task.print version)
  | some (.run values) =>
    match values.operands, values.get? "out" with
    | [source], some target => Task.ending (pack source target)
    | _, _ => return .misused

end Diorama.Pack
