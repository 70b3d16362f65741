import GatewayMigration.Provider

/-!
# A provider step by step

## Main definitions

* `Progress`: what a provider has read and produced so far
* `Progress.read`: read a source; a failure leaves everything as it was
* `Progress.convert`, `Progress.lower`: convert what was read, and write a topology
-/

namespace GatewayMigration

/-- What a provider has read and produced so far. -/
structure Progress (p : Provider) where
  store : p.Store
  /-- The topology of the last conversion. -/
  topology : Topology
  /-- The notifications of all conversions. -/
  notifications : List Notification

namespace Progress

variable {p : Provider}

/-- A provider that has done nothing yet. -/
def start (p : Provider) : Progress p := ⟨p.initial, ∅, []⟩

/-- Read a source in place of everything read before; a failure leaves that as it was. The
requests that were made come with it. -/
def read (s : Progress p) (ns : Option String) (source : Source) :
    Progress p × Option Failure × List String :=
  match p.read ns source with
  | (.ok store, requests) => ({ s with store }, none, requests)
  | (.error e, requests) => (s, some e, requests)

/-- Convert what was read. -/
def convert (s : Progress p) : Progress p × Topology × List FieldError :=
  let (topology, errors, notifications) := p.convert s.store
  ({ s with topology, notifications := s.notifications ++ notifications }, topology, errors)

/-- Write a topology, or that of the last conversion. -/
def lower (s : Progress p) (topology : Option Topology) : GatewayResources × List FieldError :=
  p.lower (topology.getD s.topology)

end Progress

end GatewayMigration
