import GatewayMigration.Cluster
import GatewayMigration.GatewayApi
import GatewayMigration.Manifest
import GatewayMigration.Notification

/-!
# Providers

A provider knows the objects of one Ingress controller. It reads what it needs from a source,
converts it to a topology, and writes a topology as Gateway API objects. Several providers can run
over one source, one after the other.

## Main definitions

* `Source`: a manifest or a cluster
* `Provider`: the three steps of a provider
* `Registry`: providers by name
* `Registry.run`: run providers over a source
-/

namespace GatewayMigration

/-- Where objects are read from. -/
inductive Source where
  /-- The documents of a manifest, or why there are none. -/
  | manifest (documents : Except Failure (List Json))
  | cluster (server : ApiServer)

/-- A provider. -/
structure Provider where
  name : String
  /-- What the provider reads from a source. -/
  Store : Type
  /-- What it has before it has read anything. -/
  initial : Store
  ofDocuments : Option String → List Json → Except Failure Store
  ofCluster : Option String → Session Store
  /-- The topology of what was read, with field errors and notifications. -/
  convert : Store → Topology × List FieldError × List Notification
  /-- The Gateway API objects of a topology. -/
  lower : Topology → GatewayResources × List FieldError

namespace Provider

/-- Read a source, in one namespace if one is given; the requests that were made come with it. -/
def read (p : Provider) (ns : Option String) : Source → Except Failure p.Store × List String
  | .manifest documents => (documents.bind (p.ofDocuments ns), [])
  | .cluster server => (p.ofCluster ns).run server

end Provider

/-- What one provider produced. -/
structure Output where
  provider : String
  resources : GatewayResources
  notifications : List Notification
  errors : List FieldError

namespace Provider

/-- Convert what was read and write it. -/
def output (p : Provider) (store : p.Store) : Output :=
  let (topology, errors, notifications) := p.convert store
  let (resources, loweringErrors) := p.lower topology
  ⟨p.name, resources, notifications, errors ++ loweringErrors⟩

/-- Read a source, convert it and write it. -/
def run (p : Provider) (ns : Option String) (source : Source) :
    Except Failure Output × List String :=
  let (store, requests) := p.read ns source
  ((store.mapError (.provider p.name)).map p.output, requests)

end Provider

/-- Providers by name. -/
abbrev Registry := OrderedMap String Provider

namespace Registry

/-- Register a provider, in place of any other of the name. -/
def register (r : Registry) (name : String) (p : Provider) : Registry := r.insert name p

/-- The registered names, ascending. -/
def names (r : Registry) : List String := r.keys

/-- The provider of a name. -/
def provider (r : Registry) (name : String) : Except Failure Provider :=
  match r.find? name with
  | some p => .ok p
  | none => .error (.unknownProvider name)

/-- Run providers over a source, one after the other, up to the first failure. -/
def run (r : Registry) (ns : Option String) (source : Source) :
    List String → Except Failure (List Output) × List String
  | [] => (.ok [], [])
  | name :: rest =>
    match r.provider name with
    | .error e => (.error e, [])
    | .ok p =>
      match p.run ns source with
      | (.error e, requests) => (.error e, requests)
      | (.ok output, requests) =>
        let (outputs, more) := run r ns source rest
        (outputs.map (output :: ·), requests ++ more)

end Registry

end GatewayMigration
