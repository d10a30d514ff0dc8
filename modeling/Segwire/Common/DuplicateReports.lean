import Segwire.Common.Config

/-!
# Reports of duplicates

Once the entries of its lists are valid, a section of a configuration can only be rejected
for an entry that stands twice in a list. Two algorithms look for one, both on the sorted
list: a comparison of the lengths before and after equal neighbours are merged, and a search
for equal neighbours.

## Main definitions

* `HasRepeat` — two positions of a list hold the same string
* `InterfaceConfig.EntriesValid`, `DnsConfig.EntriesValid`, `RoutingConfig.EntriesValid`

## Main results

* `hasDuplicates_eq_true_iff`, `isSome_adjacentRepeat_iff` — both algorithms find exactly the
  repeats
* `repeats_reported` — the sections report exactly the repeats
-/

namespace Segwire.Common

open Foundation

/-- Two different positions of the list hold the same string. -/
def HasRepeat (values : List String) : Prop :=
  ∃ (i j : Nat) (value : String), i ≠ j ∧ values[i]? = some value ∧ values[j]? = some value

theorem hasRepeat_iff_not_nodup {values : List String} : HasRepeat values ↔ ¬ values.Nodup := by
  rw [List.nodup_iff_injective_getElem]
  constructor
  · rintro ⟨i, j, value, hne, hi, hj⟩ hinj
    obtain ⟨hilt, hi⟩ := List.getElem?_eq_some_iff.mp hi
    obtain ⟨hjlt, hj⟩ := List.getElem?_eq_some_iff.mp hj
    have hsame := @hinj ⟨i, hilt⟩ ⟨j, hjlt⟩ (hi.trans hj.symm)
    exact hne (congrArg Fin.val hsame)
  · intro hinj
    obtain ⟨i, j, hsame, hne⟩ := Function.not_injective_iff.mp hinj
    exact ⟨i, j, values[i], fun heq => hne (Fin.ext heq), List.getElem?_eq_getElem i.isLt,
      (List.getElem?_eq_getElem j.isLt).trans (congrArg some hsame.symm)⟩

/-- Sorting and merging equal neighbours shortens exactly the lists with a repeat. -/
theorem hasDuplicates_eq_true_iff {values : List String} :
    hasDuplicates values = true ↔ HasRepeat values := by
  rw [hasRepeat_iff_not_nodup, ← hasDuplicates_eq_false_iff, Bool.not_eq_false]

/-- Sorting brings equal strings next to each other. -/
theorem isSome_adjacentRepeat_iff {values : List String} :
    (adjacentRepeat (values.insertionSort (· ≤ ·))).isSome = true ↔ HasRepeat values := by
  rw [hasRepeat_iff_not_nodup, ← adjacentRepeat_insertionSort_eq_none_iff,
    Option.isSome_iff_ne_none]

theorem rejectIf_eq_error_iff {bad : Bool} {error error' : ConfigError} :
    rejectIf bad error = .error (.config error') ↔ bad = true ∧ error = error' := by
  cases bad <;> simp [rejectIf]

/-! ### The sections that look for duplicates -/

/-- The checks of the moved and the virtual interfaces pass. -/
structure InterfaceConfig.EntriesValid (config : InterfaceConfig) : Prop where
  moved : ∀ name ∈ config.moveInterfaces, validateInterfaceName name = .ok ()
  virtual : ∀ vif ∈ config.virtualInterfaces, vif.validate = .ok ()

/-- The checks of the servers and the search domains pass. -/
structure DnsConfig.EntriesValid (config : DnsConfig) : Prop where
  servers : ∀ server ∈ config.servers, validateIpAddress server = .ok ()
  search : ∀ domain ∈ config.search, validateDomainName domain = .ok ()

/-- The checks of the default gateway and the routes pass. -/
structure RoutingConfig.EntriesValid (config : RoutingConfig) : Prop where
  gateway : ∀ gateway, config.defaultGateway = some gateway → validateIpAddress gateway = .ok ()
  routes : ∀ route ∈ config.routes, route.validate = .ok ()

/-- Valid entries leave the check for duplicates. -/
theorem InterfaceConfig.EntriesValid.validate_eq {config : InterfaceConfig}
    (h : config.EntriesValid) :
    config.validate = rejectIf (hasDuplicates config.allInterfaces)
      (.invalidValue "interfaces" "Duplicate interface names found") := by
  have hmoved : forM config.moveInterfaces
      (checkField validateInterfaceName "interfaces.move_interfaces") = .ok () :=
    Except.forM_eq_ok_iff.mpr fun name hname => checkField_eq_ok_iff.mpr (h.moved name hname)
  have hvirtual : forM config.virtualInterfaces VirtualInterface.validate = .ok () :=
    Except.forM_eq_ok_iff.mpr h.virtual
  rw [validate, hmoved, hvirtual]
  rfl

theorem DnsConfig.EntriesValid.validate_eq {config : DnsConfig} (h : config.EntriesValid) :
    config.validate = (rejectIf (hasDuplicates config.servers)
      (.invalidValue "dns.servers" "Duplicate DNS servers found") >>= fun _ =>
        rejectIf (hasDuplicates config.search)
          (.invalidValue "dns.search" "Duplicate search domains found")) := by
  rw [validate, checkEach_eq_ok_iff.mpr h.servers, checkEach_eq_ok_iff.mpr h.search]
  rfl

theorem RoutingConfig.EntriesValid.validate_eq {config : RoutingConfig} (h : config.EntriesValid) :
    config.validate =
      match adjacentRepeat ((config.routes.map Route.destination).insertionSort (· ≤ ·)) with
      | some destination => .error (.config (.invalidValue "routing.routes"
          ("Duplicate route destination: " ++ destination)))
      | none => .ok () := by
  have hgateway : config.validateDefaultGateway = .ok () := by
    unfold validateDefaultGateway
    split
    · rfl
    · next gateway hgateway => exact checkField_eq_ok_iff.mpr (h.gateway gateway hgateway)
  have hroutes : ∀ x ∈ config.routes.zipIdx, x.1.validate = .ok () :=
    (forall_mem_zipIdx (Route.validate · = .ok ())).mpr h.routes
  rw [validate, hgateway, Except.ok_bind, Except.forM_eq_ok_iff.mpr ?_]
  · rfl
  · exact fun x hx => Except.mapError_eq_ok_iff.mpr (hroutes x hx)

/-- Of lists with valid entries exactly those with a repeat are reported; the search domains
are compared after the servers. -/
theorem repeats_reported (interfaces : InterfaceConfig) (dns : DnsConfig) (routing : RoutingConfig)
    (hinterfaces : interfaces.EntriesValid) (hdns : dns.EntriesValid)
    (hrouting : routing.EntriesValid) :
    ((hasDuplicates interfaces.allInterfaces = true ↔ HasRepeat interfaces.allInterfaces) ∧
      (hasDuplicates dns.servers = true ↔ HasRepeat dns.servers) ∧
      (hasDuplicates dns.search = true ↔ HasRepeat dns.search) ∧
      ((adjacentRepeat ((routing.routes.map Route.destination).insertionSort (· ≤ ·))).isSome =
        true ↔ HasRepeat (routing.routes.map Route.destination))) ∧
    (interfaces.validate =
        .error (.config (.invalidValue "interfaces" "Duplicate interface names found")) ↔
      HasRepeat interfaces.allInterfaces) ∧
    (dns.validate = .error (.config (.invalidValue "dns.servers" "Duplicate DNS servers found")) ↔
      HasRepeat dns.servers) ∧
    (dns.validate =
        .error (.config (.invalidValue "dns.search" "Duplicate search domains found")) ↔
      ¬ HasRepeat dns.servers ∧ HasRepeat dns.search) ∧
    ((∃ destination, routing.validate = .error (.config (.invalidValue "routing.routes"
        ("Duplicate route destination: " ++ destination)))) ↔
      HasRepeat (routing.routes.map Route.destination)) := by
  refine ⟨⟨hasDuplicates_eq_true_iff, hasDuplicates_eq_true_iff, hasDuplicates_eq_true_iff,
    isSome_adjacentRepeat_iff⟩, ?_, ?_, ?_, ?_⟩
  · rw [hinterfaces.validate_eq, rejectIf_eq_error_iff, hasDuplicates_eq_true_iff]
    exact and_iff_left rfl
  · rw [hdns.validate_eq, ← hasDuplicates_eq_true_iff]
    cases hasDuplicates dns.servers <;> cases hasDuplicates dns.search <;> simp [rejectIf]
  · rw [hdns.validate_eq, ← hasDuplicates_eq_true_iff, ← hasDuplicates_eq_true_iff]
    cases hasDuplicates dns.servers <;> cases hasDuplicates dns.search <;> simp [rejectIf]
  · rw [hrouting.validate_eq, ← isSome_adjacentRepeat_iff]
    cases adjacentRepeat ((routing.routes.map Route.destination).insertionSort (· ≤ ·)) with
    | none => simp
    | some destination => simp

section Fixture

/-- A moved interface that is also the peer of a virtual one. -/
def repeatedInterfaces : InterfaceConfig := ⟨["eth1"], [⟨"veth0", "veth", some "eth1", []⟩]⟩

/-- Two servers, and a search domain that is listed twice. -/
def repeatedSearch : DnsConfig := ⟨["10.0.0.53", "10.0.0.54"], ["lab.org", "org", "lab.org"]⟩

/-- Two routes to one network. -/
def repeatedRoutes : RoutingConfig :=
  ⟨none, [⟨"10.1.0.0/16", "10.0.0.1", none⟩, ⟨"10.1.0.0/16", "10.0.0.2", none⟩]⟩

end Fixture

theorem repeats_reported_fixtures :
    repeatedInterfaces.validate =
        .error (.config (.invalidValue "interfaces" "Duplicate interface names found")) ∧
      repeatedSearch.validate =
        .error (.config (.invalidValue "dns.search" "Duplicate search domains found")) ∧
      ∃ destination, repeatedRoutes.validate = .error (.config (.invalidValue "routing.routes"
        ("Duplicate route destination: " ++ destination))) := by
  obtain ⟨⟨-, hservers, -, -⟩, hinterfaces, -, hsearch, hroutes⟩ :=
    repeats_reported repeatedInterfaces repeatedSearch repeatedRoutes ⟨by decide, by decide⟩
      ⟨by decide, by decide⟩ ⟨fun gateway h => absurd h (by simp [repeatedRoutes]), by decide⟩
  have hdistinct : ¬ HasRepeat repeatedSearch.servers := fun h =>
    absurd (hservers.mpr h) (by decide)
  exact ⟨hinterfaces.mpr ⟨0, 2, "eth1", by decide, rfl, rfl⟩,
    hsearch.mpr ⟨hdistinct, 0, 2, "lab.org", by decide, rfl, rfl⟩,
    hroutes.mpr ⟨0, 1, "10.1.0.0/16", by decide, rfl, rfl⟩⟩

end Segwire.Common
