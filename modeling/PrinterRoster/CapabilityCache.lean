import PrinterRoster.Capabilities
import PrinterRoster.Ipp.Client
import PrinterRoster.Table

/-! Answers of printers, kept by path. A fetch looks for a kept answer, unless it
is to bypass the cache, and otherwise queries the printer and stores what came of
that: a query without an answer leaves nothing stored. -/
namespace PrinterRoster

def Ipp.query (exchange : Exchange) (uri : String) : Option Capabilities :=
  match target uri with
  | .error _ => none
  | .ok target => ((printerAttributes exchange target).toOption).map Capabilities.ofAttributes

structure CapabilityCache where
  answers : Table String Capabilities

namespace CapabilityCache

def empty : CapabilityCache := ⟨Table.empty⟩

def cached (cache : CapabilityCache) (path : String) : Option Capabilities := cache.answers.get? path

def remove (cache : CapabilityCache) (path : String) : CapabilityCache :=
  ⟨cache.answers.erase path⟩

def store (cache : CapabilityCache) (path : String) (answer : Option Capabilities) :
    CapabilityCache :=
  match answer with
  | some answer => ⟨cache.answers.insert path answer⟩
  | none => cache.remove path

def lookup (cache : CapabilityCache) (path : String) (bypass : Bool) : Option Capabilities :=
  if bypass then none else cache.cached path

def fetch (cache : CapabilityCache) (query : String → Option Capabilities) (path : String)
    (bypass : Bool) : CapabilityCache × Option Capabilities :=
  match cache.lookup path bypass with
  | some answer => (cache, some answer)
  | none => (cache.store path (query path), query path)

theorem cached_store (cache : CapabilityCache) (path other : String) (answer : Option Capabilities) :
    (cache.store path answer).cached other = if other = path then answer else cache.cached other := by
  cases answer with
  | none => exact Table.get?_erase ..
  | some answer => exact Table.get?_insert ..

theorem cached_remove (cache : CapabilityCache) (path other : String) :
    (cache.remove path).cached other = if other = path then none else cache.cached other :=
  Table.get?_erase ..

end CapabilityCache

end PrinterRoster
