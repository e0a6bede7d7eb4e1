import FactGuard.Fact.Registry
import FactGuard.Json.Printer

/-!
# Fact/Cache — registries remembered per agent

An entry is good as long as the fingerprint of the agent's definitions is the one it was made with. A
fingerprint is the digest of the definitions as text; a cache is made for a digest and keeps to it.
-/

namespace FactGuard.Fact

/-- A list of definitions as text. -/
def written (definitions : List Definition) : String :=
  Json.text (.array (definitions.map fun definition => .object definition.members))

/-- A remembered registry. Two lookups have the same `build` exactly if they share one registry. -/
structure Cache.Entry where
  fingerprint : String
  registry : Registry
  build : Nat

/-- Registries remembered per agent, and how often lookups succeeded. -/
structure Cache where
  /-- Condenses the text of an agent's definitions to a fingerprint. -/
  digest : String → String
  entries : Std.ExtTreeMap String Cache.Entry
  hits : Nat
  misses : Nat

namespace Cache

/-- A cache for a digest, with nothing remembered. -/
def new (digest : String → String) : Cache := ⟨digest, ∅, 0, 0⟩

/-- Nothing is remembered, and a text is its own digest. -/
def empty : Cache := new id

instance : Inhabited Cache := ⟨empty⟩

/-- The fingerprint of a list of definitions, by which a remembered registry is known to be current. -/
def fingerprint (cache : Cache) (definitions : List Definition) : String :=
  cache.digest (written definitions)

/-- The current entry of an agent, if it is remembered and its definitions have not changed. -/
def current? (cache : Cache) (agent : String) (definitions : List Definition) : Option Entry :=
  cache.entries[agent]?.filter fun entry => entry.fingerprint = cache.fingerprint definitions

/-- The entry of an agent: the remembered one if it is current, else a new one. -/
def getOrBuild (cache : Cache) (agent : String) (definitions : List Definition) : Entry × Cache :=
  match cache.current? agent definitions with
  | some entry => (entry, { cache with hits := cache.hits + 1 })
  | none =>
    let entry : Entry := ⟨cache.fingerprint definitions, .ofDefinitions definitions, cache.misses + 1⟩
    (entry, { cache with entries := cache.entries.insert agent entry, misses := cache.misses + 1 })

/-- Forgets an agent; says whether it was remembered. -/
def invalidate (cache : Cache) (agent : String) : Bool × Cache :=
  (cache.entries.contains agent, { cache with entries := cache.entries.erase agent })

/-- Forgets every agent. The counts stay. -/
def clear (cache : Cache) : Cache := { cache with entries := ∅ }

/-- How many agents are remembered. -/
def size (cache : Cache) : Nat := cache.entries.size

end Cache

end FactGuard.Fact
