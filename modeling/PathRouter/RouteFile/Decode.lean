import PathRouter.Json.Decode
import PathRouter.RouteFile.Basic

/-!
# Decoding route files

A route file is decoded from a JSON value. Every field but the path and the target of a route has a
default. A value is at hand as a whole, so nothing limits its nesting; texts, of which this is not
true, are read in `RouteFile.read`.
-/

namespace PathRouter

open Json (Decoder Slot)

/-- Decodes a list of methods. -/
def Methods.decode : Decoder Methods := fun dialect v =>
  (Json.decodeList Json.decodeString dialect v).map Methods.ofList

/-- Decodes a route. -/
def RouteEntry.decode : Decoder RouteEntry :=
  Json.decodeRecord "RouteConfig"
    [.of "path" false (fun (r : RouteEntry) s => { r with path := s }) Json.decodeString,
      .of "methods" true (fun r m => { r with methods := m }) Methods.decode,
      .of "target" false (fun r s => { r with target := s }) Json.decodeString]
    { path := "", target := "" }

/-- Decodes a group in which groups are nested at most `levels` deep. -/
def RouteGroup.decode : (levels : Nat) → Decoder RouteGroup
  | 0 => Json.mismatch (.record "GroupConfig")
  | levels + 1 =>
    Json.decodeRecord "GroupConfig"
      [.of "prefix" true (fun (g : RouteGroup) s => { g with stem := s }) Json.decodeString,
        .of "routes" true (fun g rs => { g with routes := rs })
          (Json.decodeList RouteEntry.decode),
        .of "groups" true (fun g gs => { g with groups := gs })
          (Json.decodeList (RouteGroup.decode levels))]
      {}

namespace RouteFile

/-- Decodes the settings of the cache. -/
def decodeCache : Decoder (Option String) :=
  Json.decodeRecord "CacheConfig"
    [.of "path" true (fun (_ : Option String) path => path)
      (Json.decodeOptional Json.decodeString)]
    none

/-- Decodes the settings of the log. -/
def decodeLogLevel : Decoder String :=
  Json.decodeRecord "ObservabilityConfig"
    [.of "log_level" true (fun (_ : String) level => level) Json.decodeString] "info"

/-- Decodes a route file. Groups cannot be nested deeper than the value is. -/
def decode : Decoder RouteFile := fun dialect v =>
  Json.decodeRecord "RouterConfig"
    [.of "routes" true (fun (f : RouteFile) rs => { f with routes := rs })
        (Json.decodeList RouteEntry.decode),
      .of "groups" true (fun f gs => { f with groups := gs })
        (Json.decodeList (RouteGroup.decode (v.depth + 1))),
      .of "cache" true (fun f path => { f with cachePath := path }) decodeCache,
      .of "observability" true (fun f level => { f with logLevel := level }) decodeLogLevel]
    {} dialect v

/-- Numbers and records as JSON values have them. An array has to end with the last field of the
record. -/
def jsonDialect : Json.Dialect := ⟨Decimal.textOfBits, false⟩

/-- The route file with a JSON form. What is wrong with another value is said about the value, also
if a record is written as an array that is too long. -/
def ofJson (v : Json) : Except Json.ReadError RouteFile :=
  decode jsonDialect v

end RouteFile

end PathRouter
