import Paros.Coordinator.Steps
import Paros.Registry.History

/-! A universe at work: its directory, the registries of its cells, the rounds that their
coordinators run and what the operators read. Each journal is read and written at moments of its
own; a coordinator writes what it planned from readings that may be old by then.
-/

namespace Paros

/-- The registry with one more record. -/
def Registry.record (registry : Registry) (command : SystemCommand) : Registry :=
  ((registry.advance registry.nextSeq).act registry.nextSeq command).1

/-- The directory with one more record: a refused one takes its position only. -/
def FleetDirectory.record (directory : FleetDirectory) (entry : FleetEntry) : FleetDirectory :=
  match (directory.advance directory.nextSeq).judge entry with
  | .ok (after, _) => after
  | .error _ => directory.advance directory.nextSeq

/-- A coordinator's round: the directory as it read it, the other cells' registries that it read
then, and what it is about to write.
-/
structure WatchRound where
  directory : FleetDirectory
  others : Others
  pending : List SystemCommand

/-- The registries that operators `looked` at are those read since the directory changed. -/
structure Universe where
  directory : FleetDirectory
  registries : Nat → Registry
  rounds : Nat → WatchRound
  looked : Nat → Option Registry

/-- One thing that happens. -/
inductive Happening where
  /-- An operator writes the directory. -/
  | operate (entry : FleetEntry)
  /-- An operator reads a cell's registry. -/
  | look (cell : Nat)
  /-- A coordinator's round starts: it reads the directory to its tail. -/
  | read (cell : Nat)
  /-- The round reads the registry of the other side of a move. -/
  | side (cell other : Nat)
  /-- The round plans the cell's steps of creations and removals. -/
  | planTenants (cell : Nat)
  /-- The round plans the cell's steps of moves. -/
  | planMoves (cell : Nat)
  /-- The coordinator writes the next command that it planned. -/
  | write (cell : Nat)
  /-- An arriving tenant settles. -/
  | settle (cell fleetId : Nat) (tenant : TenantId)
  /-- Another record of the cell's: of its machines, bookings, grants or fleet. -/
  | routine (cell : Nat) (command : SystemCommand)

/-- Whether a record is no step of a tenant's; a cell joins a fleet under its own id. -/
def SystemCommand.isRoutine (cell : Nat) : SystemCommand → Bool
  | .hostTenant .. | .dropTenant .. | .releaseTenant .. | .adoptTenant .. | .settleTenant ..
  | .movedTenant .. => false
  | .joinFleet joined _ => joined.cellId = cell
  | _ => true

namespace Universe

def start (members : Nat → List NodeId) : Universe where
  directory := .default
  registries cell := .new (members cell)
  rounds _ := ⟨.default, ∅, []⟩
  looked _ := none

variable (world : Universe)

/-- What an operator reads before it writes a step: a created tenant is hosted, a moved one settled
in its new cell, a removed one dropped by its own.
-/
def permits : FleetCommand → Bool
  | .markTenant tenant .ready =>
    world.directory.tenants[tenant]?.any fun entry =>
      (world.looked entry.cellId).any (·.hosts tenant)
  | .finishMove tenant =>
    world.directory.tenants[tenant]?.any fun entry => entry.movingTo.any fun destination =>
      (world.looked destination).any fun target => target.hosts tenant && !target.moving tenant
  | .removeTenant tenant =>
    world.directory.tenants[tenant]?.any fun entry =>
      (world.looked entry.cellId).any fun cell => tenant ∈ cell.dropped
  | _ => true

def setRegistry (cell : Nat) (registry : Registry) : Universe :=
  { world with registries := Function.update world.registries cell registry }

def setRound (cell : Nat) (round : WatchRound) : Universe :=
  { world with rounds := Function.update world.rounds cell round }

def step : Happening → Universe
  | .operate entry =>
    if world.permits entry.command then
      { world with directory := world.directory.record entry, looked := fun _ => none }
    else world
  | .look cell =>
    { world with looked := Function.update world.looked cell (some (world.registries cell)) }
  | .read cell => world.setRound cell ⟨world.directory, ∅, []⟩
  | .side cell other =>
    let round := world.rounds cell
    match reach round.directory (world.registries cell) other with
    | some (_, endpoint) =>
      if other ∈ sides round.directory cell then
        world.setRound cell
          { round with others := round.others.insert other (world.registries other, endpoint) }
      else world
    | none => world
  | .planTenants cell =>
    let round := world.rounds cell
    if round.pending.isEmpty then
      world.setRound cell
        { round with pending := tenantSteps round.directory (world.registries cell) cell }
    else world
  | .planMoves cell =>
    let round := world.rounds cell
    if round.pending.isEmpty then
      world.setRound cell
        { round with pending := steps round.directory (world.registries cell) cell round.others }
    else world
  | .write cell =>
    let round := world.rounds cell
    match round.pending with
    | [] => world
    | command :: rest =>
      (world.setRegistry cell ((world.registries cell).record command)).setRound cell
        { round with pending := rest }
  | .settle cell fleetId tenant =>
    let registry := world.registries cell
    if (registry.arriving tenant).isSome then
      world.setRegistry cell (registry.record (.settleTenant fleetId tenant))
    else world
  | .routine cell command =>
    if command.isRoutine cell then
      world.setRegistry cell ((world.registries cell).record command)
    else world

def run (happenings : List Happening) : Universe := happenings.foldl step world

end Universe

end Paros
