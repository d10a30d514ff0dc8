import Segwire.Common.ConfigLoading
import Segwire.Common.SubstitutionPasses
import Segwire.Foundation.Parts

/-!
# Substitution in a configuration

A configuration consists of its strings, in the order of its fields, and of what is left of it
when they are blanked: its numbers, the lengths of its lists, which optional fields are given,
and the `[environment]` section, whose strings are not substituted. Substitution replaces
the strings one by one and leaves the rest alone.

## Main definitions

* `NamespaceConfig.strings` — the strings outside of the `[environment]` section
* `NamespaceConfig.blank` — what is left without them
* `SubstitutedAlong` — two values that differ by a substitution in their strings
* `SubstitutedWhole` — a configuration in which everything has been substituted

## Main results

* `NamespaceConfig.ext_strings` — a configuration is determined by its strings and the rest
* `NamespaceConfig.substitutedWhole` — a successful substitution covers the configuration
* `NamespaceConfig.literal_iff_of_validate` — what can have references in an accepted configuration
-/

namespace Segwire.Common

open Foundation Foundation.Except

/-! ### The strings of a configuration -/

/-- The strings of a virtual interface. -/
def VirtualInterface.strings (vif : VirtualInterface) : List String :=
  vif.name :: vif.interfaceType :: (vif.peer.toList ++ vif.addresses)

/-- A virtual interface without the contents of its strings. -/
def VirtualInterface.blank (vif : VirtualInterface) : VirtualInterface where
  name := ""
  interfaceType := ""
  peer := vif.peer.map fun _ => ""
  addresses := vif.addresses.map fun _ => ""

/-- The strings of a route. -/
def Route.strings (route : Route) : List String := [route.destination, route.gateway]

/-- A route without the contents of its strings. -/
def Route.blank (route : Route) : Route := { route with destination := "", gateway := "" }

/-- The strings of a WireGuard peer. -/
def WireguardPeerConfig.strings (peer : WireguardPeerConfig) : List String :=
  peer.publicKey :: (peer.presharedKey.toList ++ peer.endpoint.toList ++ peer.allowedIps)

/-- A WireGuard peer without the contents of its strings. -/
def WireguardPeerConfig.blank (peer : WireguardPeerConfig) : WireguardPeerConfig :=
  { peer with
    publicKey := ""
    presharedKey := peer.presharedKey.map fun _ => ""
    endpoint := peer.endpoint.map fun _ => ""
    allowedIps := peer.allowedIps.map fun _ => "" }

/-- The strings of a WireGuard section. -/
def WireguardConfig.strings (wg : WireguardConfig) : List String :=
  wg.privateKey :: wg.peers.flatMap WireguardPeerConfig.strings

/-- A WireGuard section without the contents of its strings. -/
def WireguardConfig.blank (wg : WireguardConfig) : WireguardConfig :=
  { wg with privateKey := "", peers := wg.peers.map WireguardPeerConfig.blank }

namespace NamespaceConfig

/-- The strings of a configuration outside of its `[environment]` section. -/
def strings (config : NamespaceConfig) : List String :=
  [config.namespace_.name, config.namespace_.description] ++
    config.interfaces.moveInterfaces ++
    config.interfaces.virtualInterfaces.flatMap VirtualInterface.strings ++
    config.routing.defaultGateway.toList ++
    config.routing.routes.flatMap Route.strings ++
    config.dns.servers ++
    config.dns.search ++
    config.wireguard.toList.flatMap WireguardConfig.strings

/-- A configuration without the contents of its strings: the numbers, the lengths of the lists,
the optional fields that are given, and the `[environment]` section as it is. -/
def blank (config : NamespaceConfig) : NamespaceConfig where
  namespace_ := ⟨"", ""⟩
  interfaces := ⟨config.interfaces.moveInterfaces.map fun _ => "",
    config.interfaces.virtualInterfaces.map VirtualInterface.blank⟩
  routing := ⟨config.routing.defaultGateway.map fun _ => "",
    config.routing.routes.map Route.blank⟩
  dns := ⟨config.dns.servers.map fun _ => "", config.dns.search.map fun _ => ""⟩
  wireguard := config.wireguard.map WireguardConfig.blank
  environment := config.environment

end NamespaceConfig

/-! ### A configuration is its strings and the rest -/

theorem VirtualInterface.determinedBy : DeterminedBy strings blank where
  length vif vif' hblank := by
    obtain ⟨-, -, hpeer, haddresses⟩ := VirtualInterface.mk.inj hblank
    rw [strings, strings, List.length_cons, List.length_cons, List.length_cons, List.length_cons,
      List.length_append, List.length_append, (DeterminedBy.toList _).length _ _ hpeer]
    have hlength := (DeterminedBy.elements _).length _ _ haddresses
    simpa using hlength
  ext vif vif' hblank hstrings := by
    obtain ⟨-, -, hpeer, haddresses⟩ := VirtualInterface.mk.inj hblank
    obtain ⟨hname, hrest⟩ := List.cons.inj hstrings
    obtain ⟨htype, hrest⟩ := List.cons.inj hrest
    obtain ⟨hpeers, haddresses⟩ := List.append_inj hrest ((DeterminedBy.toList _).length _ _ hpeer)
    cases vif
    cases vif'
    exact VirtualInterface.mk.injEq .. ▸
      ⟨hname, htype, (DeterminedBy.toList _).ext _ _ hpeer hpeers, haddresses⟩

theorem Route.determinedBy : DeterminedBy strings blank where
  length _ _ _ := rfl
  ext route route' hblank hstrings := by
    obtain ⟨-, -, hmetric⟩ := Route.mk.inj hblank
    obtain ⟨hdestination, hrest⟩ := List.cons.inj hstrings
    obtain ⟨hgateway, -⟩ := List.cons.inj hrest
    cases route
    cases route'
    exact Route.mk.injEq .. ▸ ⟨hdestination, hgateway, hmetric⟩

theorem WireguardPeerConfig.determinedBy : DeterminedBy strings blank where
  length peer peer' hblank := by
    obtain ⟨-, hpsk, hendpoint, hips, -⟩ := WireguardPeerConfig.mk.inj hblank
    have hlength := (DeterminedBy.elements _).length _ _ hips
    rw [strings, strings, List.length_cons, List.length_cons, List.length_append,
      List.length_append, List.length_append, List.length_append,
      (DeterminedBy.toList _).length _ _ hpsk, (DeterminedBy.toList _).length _ _ hendpoint]
    simpa using hlength
  ext peer peer' hblank hstrings := by
    obtain ⟨-, hpsk, hendpoint, hips, hkeepalive⟩ := WireguardPeerConfig.mk.inj hblank
    obtain ⟨hkey, hrest⟩ := List.cons.inj hstrings
    obtain ⟨hrest, hipsEq⟩ := List.append_inj' hrest ((DeterminedBy.elements _).length _ _ hips)
    obtain ⟨hpskEq, hendpointEq⟩ := List.append_inj hrest ((DeterminedBy.toList _).length _ _ hpsk)
    cases peer
    cases peer'
    exact WireguardPeerConfig.mk.injEq .. ▸ ⟨hkey, (DeterminedBy.toList _).ext _ _ hpsk hpskEq,
      (DeterminedBy.toList _).ext _ _ hendpoint hendpointEq, hipsEq, hkeepalive⟩

theorem WireguardConfig.determinedBy : DeterminedBy strings blank where
  length wg wg' hblank := by
    obtain ⟨-, -, -, hpeers⟩ := WireguardConfig.mk.inj hblank
    rw [strings, strings, List.length_cons, List.length_cons,
      WireguardPeerConfig.determinedBy.list.length _ _ hpeers]
  ext wg wg' hblank hstrings := by
    obtain ⟨-, hport, hfwmark, hpeers⟩ := WireguardConfig.mk.inj hblank
    obtain ⟨hkey, hrest⟩ := List.cons.inj hstrings
    cases wg
    cases wg'
    exact WireguardConfig.mk.injEq .. ▸
      ⟨hkey, hport, hfwmark, WireguardPeerConfig.determinedBy.list.ext _ _ hpeers hrest⟩

/-! ### Substitution in the strings -/

section Substitution

variable {subst : String → SegwireResult String}

/-- Two values differ by a substitution in their strings, and not otherwise. -/
abbrev SubstitutedAlong {α : Type} (strings : α → List String) (blank : α → α)
    (subst : String → SegwireResult String) (x y : α) : Prop :=
  RelatedAlong strings blank (fun s t => subst s = .ok t) x y

theorem substitutedAlong_option {value value' : Option String}
    (h : substituteOption subst value = .ok value') :
    SubstitutedAlong Option.toList (Option.map fun _ => "") subst value value' := by
  cases value with
  | none =>
    obtain rfl := Except.ok.inj h
    exact ⟨.nil, rfl⟩
  | some s =>
    obtain ⟨t, ht, h⟩ := bind_eq_ok_iff.mp h
    obtain rfl := Except.ok.inj h
    exact ⟨.cons ht .nil, rfl⟩

theorem substitutedAlong_mapM {xs ys : List String} (h : xs.mapM subst = .ok ys) :
    SubstitutedAlong id (List.map fun _ => "") subst xs ys :=
  .elements (mapM_eq_ok_iff.mp h)

/-- A loop whose body substitutes in the elements substitutes in the list. -/
theorem substitutedAlong_list {α : Type} {strings : α → List String} {blank : α → α}
    {f : α → SegwireResult α} (hf : ∀ x y, f x = .ok y → SubstitutedAlong strings blank subst x y)
    {xs ys : List α} (h : xs.mapM f = .ok ys) :
    SubstitutedAlong (List.flatMap strings) (List.map blank) subst xs ys :=
  .list ((mapM_eq_ok_iff.mp h).imp hf)

theorem VirtualInterface.substitutedAlong (vif vif' : VirtualInterface)
    (h : vif.substitute subst = .ok vif') : SubstitutedAlong strings blank subst vif vif' := by
  obtain ⟨name, hname, h⟩ := bind_eq_ok_iff.mp h
  obtain ⟨interfaceType, htype, h⟩ := bind_eq_ok_iff.mp h
  obtain ⟨peer, hpeer, h⟩ := bind_eq_ok_iff.mp h
  obtain ⟨addresses, haddresses, h⟩ := bind_eq_ok_iff.mp h
  obtain rfl := Except.ok.inj h
  have hpeer := substitutedAlong_option hpeer
  have haddresses := substitutedAlong_mapM haddresses
  refine ⟨.cons hname (.cons htype (List.rel_append hpeer.parts haddresses.parts)), ?_⟩
  rw [blank, blank, hpeer.blank, haddresses.blank]

theorem Route.substitutedAlong (route route' : Route) (h : route.substitute subst = .ok route') :
    SubstitutedAlong strings blank subst route route' := by
  obtain ⟨destination, hdestination, h⟩ := bind_eq_ok_iff.mp h
  obtain ⟨gateway, hgateway, h⟩ := bind_eq_ok_iff.mp h
  obtain rfl := Except.ok.inj h
  exact ⟨.cons hdestination (.cons hgateway .nil), rfl⟩

theorem WireguardPeerConfig.substitutedAlong (peer peer' : WireguardPeerConfig)
    (h : peer.substitute subst = .ok peer') : SubstitutedAlong strings blank subst peer peer' := by
  obtain ⟨publicKey, hkey, h⟩ := bind_eq_ok_iff.mp h
  obtain ⟨presharedKey, hpsk, h⟩ := bind_eq_ok_iff.mp h
  obtain ⟨endpoint, hendpoint, h⟩ := bind_eq_ok_iff.mp h
  obtain ⟨allowedIps, hips, h⟩ := bind_eq_ok_iff.mp h
  obtain rfl := Except.ok.inj h
  have hpsk := substitutedAlong_option hpsk
  have hendpoint := substitutedAlong_option hendpoint
  have hips := substitutedAlong_mapM hips
  refine ⟨.cons hkey (List.rel_append (List.rel_append hpsk.parts hendpoint.parts)
    hips.parts), ?_⟩
  rw [blank, blank, hpsk.blank, hendpoint.blank, hips.blank]

theorem substitutedAlong_wireguard {wireguard wireguard' : Option WireguardConfig}
    (h : substituteWireguard subst wireguard = .ok wireguard') :
    SubstitutedAlong (fun wg => wg.toList.flatMap WireguardConfig.strings)
      (Option.map WireguardConfig.blank) subst wireguard wireguard' := by
  cases wireguard with
  | none =>
    obtain rfl := Except.ok.inj h
    exact ⟨.nil, rfl⟩
  | some wg =>
    obtain ⟨privateKey, hkey, h⟩ := bind_eq_ok_iff.mp h
    obtain ⟨peers, hpeers, h⟩ := bind_eq_ok_iff.mp h
    obtain rfl := Except.ok.inj h
    have hpeers := substitutedAlong_list WireguardPeerConfig.substitutedAlong hpeers
    refine RelatedAlong.option ⟨.cons hkey hpeers.parts, ?_⟩
    rw [WireguardConfig.blank, WireguardConfig.blank, hpeers.blank]

end Substitution

/-! ### Substitution that changes nothing -/

section Unchanged

variable {subst : String → SegwireResult String}

theorem substituteOption_eq_self {value : Option String}
    (h : ∀ s ∈ value.toList, subst s = .ok s) : substituteOption subst value = .ok value := by
  cases value with
  | none => rfl
  | some s =>
    rw [substituteOption, h s (by simp)]
    rfl

theorem VirtualInterface.substitute_eq_self {vif : VirtualInterface}
    (h : ∀ s ∈ vif.strings, subst s = .ok s) : vif.substitute subst = .ok vif := by
  rw [strings, List.forall_mem_cons, List.forall_mem_cons, List.forall_mem_append] at h
  rw [substitute, h.1, h.2.1, substituteOption_eq_self h.2.2.1, mapM_eq_self h.2.2.2]
  rfl

theorem Route.substitute_eq_self {route : Route} (h : ∀ s ∈ route.strings, subst s = .ok s) :
    route.substitute subst = .ok route := by
  rw [strings, List.forall_mem_cons, List.forall_mem_singleton] at h
  rw [substitute, h.1, h.2]
  rfl

theorem WireguardPeerConfig.substitute_eq_self {peer : WireguardPeerConfig}
    (h : ∀ s ∈ peer.strings, subst s = .ok s) : peer.substitute subst = .ok peer := by
  rw [strings, List.forall_mem_cons, List.forall_mem_append, List.forall_mem_append] at h
  rw [substitute, h.1, substituteOption_eq_self h.2.1.1, substituteOption_eq_self h.2.1.2,
    mapM_eq_self h.2.2]
  rfl

theorem substituteWireguard_eq_self {wireguard : Option WireguardConfig}
    (h : ∀ wg ∈ wireguard.toList, ∀ s ∈ wg.strings, subst s = .ok s) :
    substituteWireguard subst wireguard = .ok wireguard := by
  cases wireguard with
  | none => rfl
  | some wg =>
    have hwg := h wg (by simp)
    rw [WireguardConfig.strings, List.forall_mem_cons, List.forall_mem_flatMap] at hwg
    rw [substituteWireguard, hwg.1,
      mapM_eq_self fun peer hpeer => WireguardPeerConfig.substitute_eq_self (hwg.2 peer hpeer)]
    rfl

end Unchanged

namespace NamespaceConfig

variable {systemEnv : String → Option String} {config config' : NamespaceConfig}

/-- A configuration whose strings are all left alone is left alone. -/
theorem substituteEnvironmentVariables_eq_self
    (h : ∀ s ∈ config.strings, substituteEnvVars systemEnv config.environment s = .ok s) :
    config.substituteEnvironmentVariables systemEnv = .ok config := by
  simp only [strings, List.forall_mem_append, List.forall_mem_cons, List.forall_mem_flatMap] at h
  obtain ⟨⟨⟨⟨⟨⟨⟨⟨hname, hdescription, -⟩, hmove⟩, hvirtual⟩, hgateway⟩, hroutes⟩, hservers⟩,
    hsearch⟩, hwireguard⟩ := h
  rw [substituteEnvironmentVariables]
  simp only [hname, hdescription, mapM_eq_self hmove,
    mapM_eq_self fun vif hvif => VirtualInterface.substitute_eq_self (hvirtual vif hvif),
    substituteOption_eq_self hgateway,
    mapM_eq_self fun route hroute => Route.substitute_eq_self (hroutes route hroute),
    mapM_eq_self hservers, mapM_eq_self hsearch, substituteWireguard_eq_self hwireguard]
  rfl

/-- Substitution replaces the strings of a configuration and leaves the rest alone. -/
theorem substitutedAlong (h : config.substituteEnvironmentVariables systemEnv = .ok config') :
    SubstitutedAlong strings blank (substituteEnvVars systemEnv config.environment) config
      config' := by
  obtain ⟨name, hname, h⟩ := bind_eq_ok_iff.mp h
  obtain ⟨description, hdescription, h⟩ := bind_eq_ok_iff.mp h
  obtain ⟨moveInterfaces, hmove, h⟩ := bind_eq_ok_iff.mp h
  obtain ⟨virtualInterfaces, hvirtual, h⟩ := bind_eq_ok_iff.mp h
  obtain ⟨defaultGateway, hgateway, h⟩ := bind_eq_ok_iff.mp h
  obtain ⟨routes, hroutes, h⟩ := bind_eq_ok_iff.mp h
  obtain ⟨servers, hservers, h⟩ := bind_eq_ok_iff.mp h
  obtain ⟨search, hsearch, h⟩ := bind_eq_ok_iff.mp h
  obtain ⟨wireguard, hwireguard, h⟩ := bind_eq_ok_iff.mp h
  obtain rfl := Except.ok.inj h
  have hmove := substitutedAlong_mapM hmove
  have hvirtual := substitutedAlong_list VirtualInterface.substitutedAlong hvirtual
  have hgateway := substitutedAlong_option hgateway
  have hroutes := substitutedAlong_list Route.substitutedAlong hroutes
  have hservers := substitutedAlong_mapM hservers
  have hsearch := substitutedAlong_mapM hsearch
  have hwireguard := substitutedAlong_wireguard hwireguard
  refine ⟨?_, ?_⟩
  · have hsettings : List.Forall₂
        (fun s t => substituteEnvVars systemEnv config.environment s = .ok t)
        [config.namespace_.name, config.namespace_.description] [name, description] :=
      .cons hname (.cons hdescription .nil)
    exact List.rel_append (List.rel_append (List.rel_append (List.rel_append (List.rel_append
      (List.rel_append (List.rel_append hsettings hmove.parts) hvirtual.parts)
      hgateway.parts) hroutes.parts) hservers.parts) hsearch.parts) hwireguard.parts
  · rw [blank, blank, hmove.blank, hvirtual.blank, hgateway.blank, hroutes.blank, hservers.blank,
      hsearch.blank, hwireguard.blank]

/-- A configuration is determined by its strings and by what is left without them. -/
theorem ext_strings (hblank : config.blank = config'.blank)
    (hstrings : config.strings = config'.strings) : config = config' := by
  obtain ⟨-, hinterfaces, hrouting, hdns, hwireguard, henvironment⟩ :=
    NamespaceConfig.mk.inj hblank
  obtain ⟨hmove, hvirtual⟩ := InterfaceConfig.mk.inj hinterfaces
  obtain ⟨hgateway, hroutes⟩ := RoutingConfig.mk.inj hrouting
  obtain ⟨hservers, hsearch⟩ := DnsConfig.mk.inj hdns
  -- the parts that what is left gives the lengths of, from the last to the first
  obtain ⟨hrest, hwireguardEq⟩ := List.append_inj' hstrings
    (WireguardConfig.determinedBy.option.length _ _ hwireguard)
  obtain ⟨hrest, hsearchEq⟩ := List.append_inj' hrest
    ((DeterminedBy.elements _).length _ _ hsearch)
  obtain ⟨hrest, hserversEq⟩ := List.append_inj' hrest
    ((DeterminedBy.elements _).length _ _ hservers)
  obtain ⟨hrest, hroutesEq⟩ := List.append_inj' hrest
    (Route.determinedBy.list.length _ _ hroutes)
  obtain ⟨hrest, hgatewayEq⟩ := List.append_inj' hrest ((DeterminedBy.toList _).length _ _ hgateway)
  obtain ⟨hrest, hvirtualEq⟩ := List.append_inj' hrest
    (VirtualInterface.determinedBy.list.length _ _ hvirtual)
  obtain ⟨hsettings, hmoveEq⟩ := List.append_inj' hrest ((DeterminedBy.elements _).length _ _ hmove)
  obtain ⟨hname, hrest⟩ := List.cons.inj hsettings
  obtain ⟨hdescription, -⟩ := List.cons.inj hrest
  obtain ⟨⟨⟩, ⟨⟩, ⟨⟩, ⟨⟩, _, _⟩ := config
  obtain ⟨⟨⟩, ⟨⟩, ⟨⟩, ⟨⟩, _, _⟩ := config'
  dsimp only at *
  rw [hname, hdescription, hmoveEq,
    VirtualInterface.determinedBy.list.ext _ _ hvirtual hvirtualEq,
    (DeterminedBy.toList _).ext _ _ hgateway hgatewayEq,
    Route.determinedBy.list.ext _ _ hroutes hroutesEq, hserversEq, hsearchEq,
    WireguardConfig.determinedBy.option.ext _ _ hwireguard hwireguardEq, henvironment]

/-- Everything in `config` has been substituted: each string is replaced in its place and has no
reference left, the `[environment]` section and everything that is not a string are as before,
and another substitution changes nothing. The strings and the rest are all there is of a
configuration. -/
structure SubstitutedWhole (systemEnv : String → Option String)
    (config config' : NamespaceConfig) : Prop where
  replaced : List.Forall₂ (fun s t => substituteEnvVars systemEnv config.environment s = .ok t)
    config.strings config'.strings
  resolved : ∀ s ∈ config'.strings, ¬ HasReference s.toList
  environment : config'.environment = config.environment
  rest : config'.blank = config.blank
  whole : ∀ other : NamespaceConfig, other.blank = config'.blank →
    other.strings = config'.strings → other = config'
  again : config'.substituteEnvironmentVariables systemEnv = .ok config'

/-- A successful substitution covers the whole configuration. -/
theorem substitutedWhole (systemEnv : String → Option String) (config config' : NamespaceConfig)
    (h : config.substituteEnvironmentVariables systemEnv = .ok config') :
    SubstitutedWhole systemEnv config config' := by
  have halong := substitutedAlong h
  have henvironment : config'.environment = config.environment :=
    (congrArg NamespaceConfig.environment halong.blank).symm
  have hresolved : ∀ s ∈ config'.strings, ¬ HasReference s.toList := by
    have hgood : List.Forall₂ (fun t s => ¬ HasReference t.toList ∧
        substituteEnvVars systemEnv config.environment s = .ok t) config'.strings
        config.strings :=
      halong.parts.flip.imp fun _ _ hst => ⟨not_hasReference_of_substituteEnvVars hst, hst⟩
    exact ((List.forall₂_and_left _ _).mp hgood).1
  exact {
    replaced := halong.parts
    resolved := hresolved
    environment := henvironment
    rest := halong.blank.symm
    whole := fun _ hblank hstrings => ext_strings hblank hstrings
    again := substituteEnvironmentVariables_eq_self fun s hs =>
      substituteEnvVars_of_not_hasReference (hresolved s hs) }

/-- Substitution leaves a configuration alone iff none of its strings has a reference. -/
theorem substituteEnvironmentVariables_eq_self_iff :
    config.substituteEnvironmentVariables systemEnv = .ok config ↔
      ∀ s ∈ config.strings, ¬ HasReference s.toList := by
  constructor
  · intro h
    exact (substitutedWhole systemEnv config config h).resolved
  · intro h
    exact substituteEnvironmentVariables_eq_self fun s hs =>
      substituteEnvVars_of_not_hasReference (h s hs)

section Fixture

/-- The name of the configuration and its description come from its environment. -/
theorem substitutedWhole_settings :
    SubstitutedWhole (fun _ => none)
      { bare "${N}" with environment := Finmap.singleton "N" "lab" }
      { bare "lab" with environment := Finmap.singleton "N" "lab" } :=
  substitutedWhole _ _ _ (by decide)

end Fixture

end NamespaceConfig

/-! ### The strings of a configuration that passes its checks -/

theorem ReferenceFree.not_hasReference {s : String} (h : ReferenceFree s) :
    ¬ HasReference s.toList := by
  rintro ⟨before, spec, after, htext, -⟩
  apply h
  rw [htext]
  simp

theorem VirtualInterface.literal_of_validate {vif : VirtualInterface}
    (h : vif.validate = .ok ()) : ∀ s ∈ vif.strings, ¬ HasReference s.toList := by
  obtain ⟨hname, htype, hpeer, haddresses⟩ := referenceFree_of_validate h
  rw [strings, List.forall_mem_cons, List.forall_mem_cons, List.forall_mem_append]
  refine ⟨hname.not_hasReference, htype.not_hasReference, fun peer hp => ?_,
    fun s hs => (haddresses s hs).not_hasReference⟩
  exact (hpeer peer (Option.mem_toList.mp hp)).not_hasReference

theorem Route.literal_of_validate {route : Route} (h : route.validate = .ok ()) :
    ∀ s ∈ route.strings, ¬ HasReference s.toList := by
  obtain ⟨hdestination, hgateway⟩ := referenceFree_of_validate h
  rw [strings, List.forall_mem_cons, List.forall_mem_singleton]
  exact ⟨hdestination.not_hasReference, hgateway.not_hasReference⟩

/-- Of a peer that passes its checks, only the endpoint can have a reference. -/
theorem WireguardPeerConfig.literal_iff_of_validate {peer : WireguardPeerConfig}
    (h : peer.validate = .ok ()) :
    (∀ s ∈ peer.strings, ¬ HasReference s.toList) ↔
      ∀ endpoint, peer.endpoint = some endpoint → ¬ HasReference endpoint.toList := by
  obtain ⟨hkey, hpsk, -, hips⟩ := validate_eq_ok_iff.mp h
  have hpsk' : ∀ s ∈ peer.presharedKey.toList, ¬ HasReference s.toList := by
    intro s hs
    have hsome : peer.presharedKey = some s := by simpa using hs
    exact (ReferenceFree.of_validateWgKey (hpsk s hsome)).not_hasReference
  have hips' : ∀ s ∈ peer.allowedIps, ¬ HasReference s.toList := fun s hs =>
    (ReferenceFree.of_validateCidr (hips s hs)).not_hasReference
  have hkey' := (ReferenceFree.of_validateWgKey hkey).not_hasReference
  simp only [strings, List.forall_mem_cons, List.forall_mem_append, Option.mem_toList] at hpsk' ⊢
  exact ⟨fun hall => hall.2.1.2, fun hendpoint => ⟨hkey', ⟨hpsk', hendpoint⟩, hips'⟩⟩

/-- Of a configuration that passes its checks, only the description and the endpoints can have
references. -/
theorem NamespaceConfig.literal_iff_of_validate {config : NamespaceConfig}
    (h : config.validate = .ok ()) :
    (∀ s ∈ config.strings, ¬ HasReference s.toList) ↔
      ¬ HasReference config.namespace_.description.toList ∧
        ∀ wg, config.wireguard = some wg → ∀ peer ∈ wg.peers, ∀ endpoint,
          peer.endpoint = some endpoint → ¬ HasReference endpoint.toList := by
  obtain ⟨hname, hinterfaces, hrouting, hdns, hwireguard⟩ := validate_eq_ok_iff.mp h
  obtain ⟨hmove, hvirtual, -⟩ := InterfaceConfig.validate_eq_ok_iff.mp hinterfaces
  obtain ⟨hgateway, hroutes, -⟩ := RoutingConfig.validate_eq_ok_iff.mp hrouting
  obtain ⟨hservers, hsearch, -⟩ := DnsConfig.validate_eq_ok_iff.mp hdns
  have hwg : (∀ wg, config.wireguard = some wg → ∀ s ∈ wg.strings, ¬ HasReference s.toList) ↔
      ∀ wg, config.wireguard = some wg → ∀ peer ∈ wg.peers, ∀ endpoint,
        peer.endpoint = some endpoint → ¬ HasReference endpoint.toList := by
    refine forall₂_congr fun wg hsome => ?_
    obtain ⟨hkey, hpeers⟩ := WireguardConfig.validate_eq_ok_iff.mp (hwireguard wg hsome)
    rw [WireguardConfig.strings, List.forall_mem_cons, List.forall_mem_flatMap,
      and_iff_right (ReferenceFree.of_validateWgKey hkey).not_hasReference]
    exact forall₂_congr fun peer hpeer =>
      WireguardPeerConfig.literal_iff_of_validate (hpeers peer hpeer)
  rw [← hwg]
  -- every other string of the configuration passes a check that admits no reference
  simp only [strings, List.forall_mem_append, List.forall_mem_cons, List.forall_mem_flatMap,
    Option.mem_toList]
  constructor
  · rintro ⟨⟨⟨⟨⟨⟨⟨⟨-, hdescription, -⟩, -⟩, -⟩, -⟩, -⟩, -⟩, -⟩, hstrings⟩
    exact ⟨hdescription, hstrings⟩
  · rintro ⟨hdescription, hstrings⟩
    refine ⟨⟨⟨⟨⟨⟨⟨⟨?_, hdescription, List.forall_mem_nil _⟩, ?_⟩, ?_⟩, ?_⟩, ?_⟩, ?_⟩, ?_⟩, hstrings⟩
    · exact (ReferenceFree.of_validateNamespaceName hname).not_hasReference
    · exact fun s hs => (ReferenceFree.of_validateInterfaceName (hmove s hs)).not_hasReference
    · exact fun vif hvif => VirtualInterface.literal_of_validate (hvirtual vif hvif)
    · exact fun s hs => (ReferenceFree.of_validateIpAddress (hgateway s hs)).not_hasReference
    · exact fun route hroute => Route.literal_of_validate (hroutes route hroute)
    · exact fun s hs => (ReferenceFree.of_validateIpAddress (hservers s hs)).not_hasReference
    · exact fun s hs => (ReferenceFree.of_validateDomainName (hsearch s hs)).not_hasReference

end Segwire.Common
