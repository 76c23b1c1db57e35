/-!
# The cache of scripts

A script is loaded once and then called by the digest that the server gave for it. The cache maps
the bodies of loaded scripts to their digests.
-/

namespace CommandPipeline

/-- The bodies loaded so far with their digests, each body at most once. -/
abbrev ScriptCache := List (String × String)

namespace ScriptCache

/-- The digest of a body. -/
def digest? (cache : ScriptCache) (body : String) : Option String := cache.lookup body

/-- Notes the digest of a body. -/
def insert (cache : ScriptCache) (body digest : String) : ScriptCache :=
  (body, digest) :: cache.filter fun entry => entry.1 != body

end ScriptCache

end CommandPipeline
