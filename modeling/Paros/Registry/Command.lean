import Paros.Registry.Wire

/-! The commands of the cell control journal, how a record is read as one, and the events their
fold answers with.
-/

namespace Paros

structure SlowFacts where
  rttUs : Nat
  diskBusyPermille : Nat
  cpuBusyPermille : Nat

inductive SystemCommand where
  | registerNode (id : NodeId) (addr : Text) (nodeClass : Class) (locality : Locality)
    (name : Text) (incarnation : Nat) (machineInterface : Bytes)
  | drainNode (id : NodeId)
  | retireNode (id : NodeId)
  | bookCapacity (slot : Slot)
  | machineDown (id : NodeId) (incarnation : Nat)
  | machineSlow (id : NodeId) (incarnation : Nat) (slow : Bool) (facts : SlowFacts)
  | machineSpace (id : NodeId) (incarnation : Nat) (low : Bool) (freeBytes : Nat)
  | machineUp (id : NodeId) (incarnation : Nat)
  | machineAdmitted (id : NodeId)
  | maintenance (scope : MaintenanceScope) (forMs : Nat)
  | releaseCapacity (booking : Nat)
  | joinFleet (joined : FleetRegistration) (pointer : Option UniversePointer)
  | hostTenant (fleetId : Nat) (tenant : TenantId) (hosted : HostedTenant)
  | dropTenant (fleetId : Nat) (tenant : TenantId)
  | releaseTenant (fleetId : Nat) (tenant : TenantId) (destination : Nat) (born : List NodeId)
  | adoptTenant (fleetId : Nat) (tenant : TenantId) (hosted : HostedTenant) (source : Nat)
    (born : List NodeId)
  | settleTenant (fleetId : Nat) (tenant : TenantId)
  | movePeers (tenant : TenantId) (cellId : Nat) (peers : List MovePeer)
  | movedTenant (fleetId : Nat) (tenant : TenantId) (destination : Nat)
  | grantCapacity (key : GrantKey) (tenant : TenantId) (slots : Option (List Slot))
  | setMachineTags (request : Nat) (id : NodeId) (tags : UserTags)
  | setControlPlane (request : Nat) (mode : ControlPlaneMode)
  | setBalance (request : Nat) (paused : Bool)
  | balanceStarted (booking : Nat) (journal : JournalIdentifier) (source destination : NodeId)
    (reason : BalanceReason)
  | balanceAbandoned (booking : Nat)

/-- An error of the tags, under the text of the message that holds them. -/
def tagged {α : Type} (text : String) : Except TagError α → Except String α
  | .error _ => .error text
  | .ok value => .ok value

namespace SystemCommand

def registerFromWire (id : Nat) (addr name : Text) (tags : List WireTag) (high low : Nat)
    (machineInterface : Bytes)
    : Except String SystemCommand := do
  let (held, locality, user) ←
    tagged "a registration's tags are malformed or unknown" ((Tags.fromWire tags).bind parseMachineTags)
  if !user.isEmpty then throw "a registration carries its reserved tags only"
  return registerNode id addr held locality name (incarnationFromHalves high low) machineInterface

def grantFromWire (request tenant : Nat) (footprint refused : Bool)
    (bookings : List Wire.BookCapacity)
    : Except String SystemCommand := do
  if footprint ∧ request ≠ 0 then throw "a footprint grant names no request"
  if refused ∧ bookings ≠ [] then throw "a refused grant books nothing"
  let key : GrantKey := if footprint then .footprint tenant else .request request
  if refused then return grantCapacity key tenant none
  let slots ← bookings.mapM Slot.fromWire
  return grantCapacity key tenant (some slots)

/-- The command of a decoded entry. -/
def fromWire (codec : SystemCodec) : Wire.Kind → Except String SystemCommand
  | .registerNode id addr name tags high low machineInterface =>
    registerFromWire id addr name tags high low machineInterface
  | .drainNode id => .ok (drainNode id)
  | .retireNode id => .ok (retireNode id)
  | .bookCapacity book => (Slot.fromWire book).map bookCapacity
  | .machineDown id high low => .ok (machineDown id (incarnationFromHalves high low))
  | .machineUp id high low => .ok (machineUp id (incarnationFromHalves high low))
  | .machineSlow id high low slow rttUs diskBusyPermille cpuBusyPermille =>
    .ok (machineSlow id (incarnationFromHalves high low) slow
      ⟨rttUs, diskBusyPermille, cpuBusyPermille⟩)
  | .machineSpace id high low lowSpace freeBytes =>
    .ok (machineSpace id (incarnationFromHalves high low) lowSpace freeBytes)
  | .machineAdmitted id => .ok (machineAdmitted id)
  | .maintenance node zone forMs =>
    (MaintenanceScope.fromWire node zone).map fun scope => maintenance scope forMs
  | .setMachineTags request id tags =>
    (tagged "a user tag set is malformed, reserved or over the cap" (UserTags.fromWire tags)).map
      fun tags => setMachineTags request id tags
  | .releaseCapacity booking => .ok (releaseCapacity booking)
  | .setControlPlane request auto failures =>
    (controlPlaneFromWire auto failures).map fun mode => setControlPlane request mode
  | .setBalance request paused => .ok (setBalance request paused)
  | .balanceStarted booking tenant journal source destination reason =>
    (BalanceReason.parse reason).map fun reason =>
      balanceStarted booking ⟨tenant, journal⟩ source destination reason
  | .balanceAbandoned booking => .ok (balanceAbandoned booking)
  | .joinFleet fleetId cellId version directoryTenant directoryJournal hosts =>
    (UniversePointer.fromWire codec directoryTenant directoryJournal hosts).map fun pointer =>
      joinFleet ⟨fleetId, cellId, version⟩ pointer
  | .hostTenant fleetId tenant controlJournal name survives members =>
    (Survives.fromWire survives).map fun survives =>
      hostTenant fleetId tenant ⟨controlJournal, name, survives, members⟩
  | .dropTenant fleetId tenant => .ok (dropTenant fleetId tenant)
  | .releaseTenant fleetId tenant destination born =>
    .ok (releaseTenant fleetId tenant destination born)
  | .adoptTenant fleetId tenant controlJournal name survives source born =>
    (Survives.fromWire survives).map fun survives =>
      adoptTenant fleetId tenant ⟨controlJournal, name, survives, born⟩ source born
  | .settleTenant fleetId tenant => .ok (settleTenant fleetId tenant)
  | .movePeers tenant cellId peers =>
    (MovePeer.peersFromWire peers).map fun peers => movePeers tenant cellId peers
  | .movedTenant fleetId tenant destination => .ok (movedTenant fleetId tenant destination)
  | .grantCapacity request tenant footprint refused bookings =>
    grantFromWire request tenant footprint refused bookings

def decode (codec : SystemCodec) (record : Bytes) : Except String SystemCommand :=
  match codec.decodeEntry record with
  | none => .error "not a system entry"
  | some none => .error "a system entry names no kind"
  | some (some kind) => fromWire codec kind

end SystemCommand

-- Events

inductive RegistryRefusal where
  | malformed
  | alreadyKnown (id : NodeId)
  | classChanged (id : NodeId)
  | notRegistered (id : NodeId)
  | notDraining (id : NodeId)
  | bookingTaken (booking : Nat)
  | wrongClass (id : NodeId)
  | controlPlaneTooWide (failures storage : Nat)
  | alreadyBooked (id : NodeId)
  | livenessUnchanged (id : NodeId)
  | staleIncarnation (id : NodeId)
  | notInPool (id : NodeId)
  | noBalanceMove (booking : Nat)
  | unknownBooking (booking : Nat)
  | otherFleet (fleetId : Nat)
  | unsupported
  | tenantDropped (tenant : TenantId)
  | unknownTenant (tenant : TenantId)
  | moveOpen (tenant : TenantId)
  | notLeaving (tenant : TenantId)
  | noFootprint (tenant : TenantId)
  deriving DecidableEq, Repr

inductive RegistryEvent where
  | registered (id : NodeId) (addr : Text) (nodeClass : Class)
  | reregistered (id : NodeId) (addr : Text)
  | draining (id : NodeId)
  | retired (id : NodeId)
  | booked (slot : Slot)
  | machineAdmitted (id : NodeId)
  | tagged (id : NodeId)
  | tagRepeated (request : Nat)
  | controlPlaneSet (mode : ControlPlaneMode)
  | controlPlaneRepeated (request : Nat)
  | balanceSet (paused : Bool)
  | balanceRepeated (request : Nat)
  | balanceStarted (booking : Nat)
  | balanceAbandoned (booking : Nat)
  | machineDown (id : NodeId)
  | machineSlow (id : NodeId) (slow : Bool)
  | machineSpace (id : NodeId) (low : Bool)
  | machineUp (id : NodeId) (incarnation : Nat) (wasDown : Bool)
  | maintenance (scope : MaintenanceScope) (forMs : Nat)
  | released (booking : Nat) (node : NodeId)
  | joinedFleet (fleetId cellId : Nat)
  | repointed (fleetId : Nat)
  | tenantHosted (tenant : TenantId) (control : JournalId)
  | tenantDropped (tenant : TenantId)
  | tenantReleased (tenant : TenantId) (destination : Nat)
  | tenantAdopted (tenant : TenantId) (control : JournalId) (source : Nat)
  | tenantSettled (tenant : TenantId) (source : Nat)
  | movePeersSet (tenant : TenantId) (cellId : Nat)
  | tenantMovedOut (tenant : TenantId) (destination : Nat)
  | unchanged
  | granted (key : GrantKey) (slots : List Slot)
  | grantRefused (key : GrantKey)
  | refused (reason : RegistryRefusal)
  deriving DecidableEq, Repr

/-- The slots an event booked. -/
def RegistryEvent.slots : RegistryEvent → List Slot
  | booked slot => [slot]
  | granted _ slots => slots
  | _ => []

/-- What an event settles for good: a dropped tenant, a retired machine, the outcome of a grant. -/
inductive Mark where
  | dropped (tenant : TenantId)
  | retired (node : NodeId)
  | granted (key : GrantKey) (bookings : Option (List Nat))

def RegistryEvent.marks : RegistryEvent → List Mark
  | tenantDropped tenant => [.dropped tenant]
  | retired node => [.retired node]
  | granted key slots => [.granted key (some (slots.map Slot.booking))]
  | grantRefused key => [.granted key none]
  | _ => []

/-- An event that books and settles nothing. -/
def RegistryEvent.quiet (event : RegistryEvent) : Bool := event.slots.isEmpty && event.marks.isEmpty

theorem RegistryEvent.quiet_iff {event : RegistryEvent}
    : event.quiet ↔ event.slots = [] ∧ event.marks = [] := by
  simp [quiet]

end Paros
