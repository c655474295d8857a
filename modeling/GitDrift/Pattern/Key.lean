/-!
What a Pattern is known by: its name and the namespace that it is in.
-/
namespace GitDrift

structure PatternKey where
  name : String
  namespace_ : String
deriving DecidableEq, Inhabited

/-- The namespace, a slash and the name. -/
def PatternKey.text (k : PatternKey) : String := k.namespace_ ++ "/" ++ k.name

instance : ToString PatternKey := ⟨PatternKey.text⟩

end GitDrift
