import GitDrift.Pattern.Definition
import GitDrift.Yaml

/-!
Prints the definition of Patterns that a cluster is given before the operator can run in it.
-/

def main : IO Unit := IO.print (GitDrift.Yaml.render GitDrift.Pattern.definition)
