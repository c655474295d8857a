import GitDrift.Json

/-!
Patches that are lists of operations (RFC 6902), as far as they are needed here. An operation
names a place by a path, and a patch takes effect only if each of its tests holds.
-/
namespace GitDrift.Json

inductive PatchOperation where
  /-- Requires that a value is found at a path. -/
  | test (path : String) (value : Json)
  | add (path : String) (value : Json)
  | remove (path : String)

def PatchOperation.encode : PatchOperation → Json
  | .test path value => .obj [("op", .str "test"), ("path", .str path), ("value", value)]
  | .add path value => .obj [("op", .str "add"), ("path", .str path), ("value", value)]
  | .remove path => .obj [("op", .str "remove"), ("path", .str path)]

end GitDrift.Json
