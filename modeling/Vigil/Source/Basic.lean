import Vigil.Alert.Basic
import Vigil.Notification
import Vigil.Source.Sample
import Vigil.Table

/-!
# Sources

A source has one request and turns its answer into samples. A graphite source
reads series from the render service; a probe asks an address, and the status of
the answer is its one sample.
-/

namespace Vigil

/-- Why a load brought no samples. -/
inductive SourceFault where
  | transport (fault : TransportFault)
  | decode (fault : Graphite.RecordFault)
deriving DecidableEq

/-- The message of a failed load. -/
def SourceFault.message : SourceFault → String
  | transport fault => fault.message
  | decode fault => fault.message

/-- Where the samples of an alert come from. -/
inductive Source where
  | graphite (request : FetchRequest) (reduction : Graphite.Reduction) (policy : Graphite.GapPolicy)
  | probe (request : FetchRequest)
deriving DecidableEq

namespace Source

/-- The request of a source. -/
def request : Source → FetchRequest
  | graphite request _ _ => request
  | probe request => request

/-- The samples in the answer to the request. -/
def samples (source : Source) (result : FetchResult) : Except SourceFault (List Sample) :=
  match result with
  | .error fault => .error (.transport fault)
  | .ok response =>
      match source with
      | probe request => .ok [⟨some (Double.ofNat response.status), request.url⟩]
      | graphite request reduction policy =>
          if !response.isSuccess then .error (.transport (.status response.status request.url))
          else
            match Graphite.Record.readAll policy response.body.toList with
            | .error fault => .error (.decode fault)
            | .ok records => .ok (records.map fun r => ⟨reduction.apply r.values, r.target⟩)

/-- The reduction of a configuration. -/
def readReduction (config : AlertConfig) (options : Options) :
    Except AlertFault Graphite.Reduction :=
  match config.method with
  | none => .ok options.method
  | some word =>
      match Graphite.Reduction.ofName? word with
      | some reduction => .ok reduction
      | none => .error (.reduction word)

/-- The graphite source of an alert. -/
def ofGraphite (alert : Alert) (config : AlertConfig) (options : Options) :
    Except AlertFault Source := do
  let reduction ← readReduction config options
  match Graphite.renderUrl? options.graphiteUrl alert.query alert.timeWindow alert.lag true with
  | none => throw (.address options.graphiteUrl)
  | some url =>
      let credentials := options.authUsername.map fun name => ⟨name, options.authPassword⟩
      let policy := ⟨config.gapValue.getD options.gapValue, config.ignoreGaps.getD options.ignoreGaps⟩
      return graphite ⟨url, Method.get, alert.timeouts, credentials⟩ reduction policy

/-- The method of a probe. -/
def readMethod (config : AlertConfig) : Except AlertFault String :=
  match config.method with
  | none => .ok Method.get
  | some word =>
      match Method.read? word with
      | some method => .ok method
      | none => .error (.method word)

/-- The probe of an alert, which asks the address in its query. -/
def ofProbe (alert : Alert) (config : AlertConfig) : Except AlertFault Source := do
  let method ← readMethod config
  return probe ⟨alert.query, method, alert.timeouts, none⟩

end Source

/-- Makes the source of a compiled alert. -/
abbrev SourceFactory := Alert → AlertConfig → Options → Except AlertFault Source

/-- The ways to make sources, by the tag that alerts name. -/
structure SourceRegistry where
  factories : Table String SourceFactory

namespace SourceRegistry

/-- A registry without sources. -/
def empty : SourceRegistry := ⟨Table.empty⟩

/-- Adds the factory of a tag or replaces it. -/
def register (registry : SourceRegistry) (tag : String) (factory : SourceFactory) : SourceRegistry :=
  ⟨registry.factories.set tag factory⟩

/-- The registry of graphite sources and probes. -/
def standard : SourceRegistry :=
  (empty.register Alert.graphSource Source.ofGraphite).register Event.probeSource
    fun alert config _ => Source.ofProbe alert config

/-- Whether a tag has a factory. -/
def contains (registry : SourceRegistry) (tag : String) : Bool := registry.factories.contains tag

/-- The tags in the order of their characters. -/
def tags (registry : SourceRegistry) : List String :=
  registry.factories.keys.mergeSort fun a b => a ≤ b

/-- The source of an alert. -/
def build (registry : SourceRegistry) (alert : Alert) (config : AlertConfig) (options : Options) :
    Except InvalidAlert Source :=
  match registry.factories.get? alert.source with
  | none => .error ⟨alert.name, .unknownSource alert.source⟩
  | some factory => (factory alert config options).mapError fun fault => ⟨alert.name, fault⟩

/-- The registry as it is shown. -/
def text (registry : SourceRegistry) : String :=
  "SourceRegistry \x7b tags: [" ++ ", ".intercalate (registry.tags.map Text.quoted) ++ "] \x7d"

end SourceRegistry

end Vigil
