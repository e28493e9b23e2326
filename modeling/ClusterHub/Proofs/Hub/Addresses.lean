import Mathlib.Data.List.Nodup
import ClusterHub.Hub.Sockets
import ClusterHub.Proofs.Json.Spelling

/-!
# The addresses of a hub

A hub sets thirteen consecutive ports aside, which go on with zero after the highest.
No two of them are the same, and neither are their addresses.  Every such address ends
in a digit, so that the one address without a port is none of them.
-/

namespace ClusterHub

namespace Text

/-- The last digit of a number is that of its units. -/
theorem exists_digits_eq (n : Nat) : ∃ cs, digits n = cs ++ [digitChar (n % 10)] := by
  by_cases small : n < 10
  · refine ⟨[], ?_⟩
    rw [digits_of_small small, Nat.mod_eq_of_lt small, List.nil_append]
  · exact ⟨digits (n / 10), digits_of_large (Nat.le_of_not_lt small)⟩

theorem decimal_injective : Function.Injective decimal := by
  intro m n same
  have digits := congrArg value (String.ofList_injective same)
  rw [value_digits, value_digits] at digits
  exact digits

end Text

namespace Config

variable (config : Config)

/-- Different ports have different addresses. -/
theorem address_injective : Function.Injective config.address := by
  intro port other same
  have ends := (String.append_right_inj _).mp same
  exact UInt16.toNat_inj.mp (Text.decimal_injective ends)

/-- An address ends in a digit of its port. -/
theorem getLast?_address (port : UInt16) :
    (config.address port).toList.getLast? = some (Text.digitChar (port.toNat % 10)) := by
  rcases Text.exists_digits_eq port.toNat with ⟨cs, split⟩
  rw [address, String.toList_append, Text.decimal, String.toList_ofList, split,
    ← List.append_assoc, List.getLast?_concat]

end Config

namespace HubAddresses

/-- An address that has a port is not the one without. -/
theorem address_ne_localMonitor (config : Config) (port : UInt16) :
    config.address port ≠ localMonitor := by
  intro same
  have last := config.getLast?_address port
  rw [same] at last
  have digit := Text.digitValue?_digitChar (Nat.mod_lt port.toNat (by decide : 0 < 10))
  rw [← Option.some.inj last] at digit
  contradiction

/-- The addresses of the ports that are set aside for a hub, in the order of the ports. -/
def allocated (addresses : HubAddresses) : List String :=
  [addresses.engine.ping, addresses.engine.pong, addresses.client.mux, addresses.engine.mux,
    addresses.client.task, addresses.engine.task, addresses.client.control,
    addresses.engine.control, addresses.client.output, addresses.engine.output,
    addresses.monitor, addresses.client.notification, addresses.engine.registration]

/-- The addresses at which a hub is bound, in the order in which it takes them. -/
def seats (addresses : HubAddresses) : List String :=
  [addresses.engine.registration, addresses.engine.pong, addresses.monitor, localMonitor]

/-- The address of the port at some distance from the first one. -/
def addressAt (config : Config) (distance : Nat) : String :=
  config.address (config.startPort + .ofNat distance)

variable (config : Config)

/-- Ports that go on with zero meet again only after all of them. -/
theorem nodup_map_addressAt {distances : List Nat} (distinct : distances.Nodup)
    (near : ∀ distance ∈ distances, distance < UInt16.size) :
    (distances.map (addressAt config)).Nodup := by
  refine List.Nodup.map_on ?_ distinct
  intro distance member other otherMember same
  have ports : UInt16.ofNat distance = UInt16.ofNat other :=
    (UInt16.add_right_inj config.startPort).mp (config.address_injective same)
  have numbers := congrArg UInt16.toNat ports
  rw [UInt16.toNat_ofNat_of_lt' (near distance member),
    UInt16.toNat_ofNat_of_lt' (near other otherMember)] at numbers
  exact numbers

theorem allocated_ofConfig :
    (ofConfig config).allocated = (List.range 13).map (addressAt config) := by
  simp only [allocated, ofConfig, PortPool.takePair, PortPool.take, UInt16.add_assoc]
  simp [addressAt, List.range_succ]

theorem seats_ofConfig :
    (ofConfig config).seats = [12, 1, 10].map (addressAt config) ++ [localMonitor] := by
  simp only [seats, ofConfig, PortPool.takePair, PortPool.take, UInt16.add_assoc]
  rfl

theorem nodup_allocated : (ofConfig config).allocated.Nodup := by
  rw [allocated_ofConfig]
  refine nodup_map_addressAt config List.nodup_range ?_
  intro distance member
  exact Nat.lt_trans (List.mem_range.mp member) (by decide)

theorem nodup_seats : (ofConfig config).seats.Nodup := by
  rw [seats_ofConfig, List.nodup_append]
  refine ⟨nodup_map_addressAt config (by decide) (by decide), List.nodup_singleton _, ?_⟩
  intro address member other otherMember
  rcases List.mem_map.mp member with ⟨distance, _, rfl⟩
  rw [List.mem_singleton.mp otherMember]
  exact address_ne_localMonitor config _

end HubAddresses

end ClusterHub
