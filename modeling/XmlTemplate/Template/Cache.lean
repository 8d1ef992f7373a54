import XmlTemplate.Template.Parser

/-!
# Compiled templates

Reading a template is done once for each source and settings. The cache keeps the templates that
were asked for last, up to a fixed number, and gives every one a number of its own, so that two
answers can be told to be the same object. Sources that are no templates are not kept.
-/

set_option autoImplicit false

namespace XmlTemplate

/-- A template that has been read, and the number it was given. -/
structure Compiled where
  id : Nat
  template : Template

/-- A kept template with the source and settings that it was read from. -/
structure CacheEntry where
  source : Text
  settings : Settings
  compiled : Compiled

/-- Kept templates, the one asked for last first, and the next number to give. -/
structure Cache where
  entries : List CacheEntry
  next : Nat

namespace Cache

/-- The most templates that are kept. -/
def capacity : Nat := 256

/-- A cache without templates. -/
def empty : Cache := ⟨[], 0⟩

/-- Whether an entry answers a request. -/
def answers (source : Text) (settings : Settings) (e : CacheEntry) : Bool :=
  e.source == source && e.settings.same settings

/-- The template for a source and settings, and the cache after the request. The room is for a
template that has to be read. -/
def compile (cache : Cache) (room : Nat) (source : Text) (settings : Settings) :
    Except Fault Compiled × Cache :=
  if settings.isKey then
    match cache.entries.find? (answers source settings) with
    | some e =>
      (.ok e.compiled,
        { cache with entries := e :: cache.entries.eraseP (answers source settings) })
    | none =>
      match Template.parse settings.permission (room - keepingRoom) source with
      | .error e => (.error (.parse e), cache)
      | .ok t =>
        let compiled : Compiled := ⟨cache.next, t⟩
        (.ok compiled,
          ⟨(⟨source, settings, compiled⟩ :: cache.entries).take capacity, cache.next + 1⟩)
  else (.error .unsuitable, cache)

end Cache

end XmlTemplate
