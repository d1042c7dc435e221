namespace AmbientTypes.Package

def builtins : List (String × String) := [
  ("typescript", "typescript"), ("node", "@types/node"), ("deno", "@types/deno"),
  ("bun", "bun-types")]

def defaultBuiltins : List (String × Bool) :=
  [("typescript", true), ("node", true), ("deno", false), ("bun", false)]

end AmbientTypes.Package
