import Segwire.Common.Config

/-!
# Documented rules

The documentation lists the rules of a namespace configuration, and the checks enforce
most of them. Two go further than the checks: a name has lower case letters only, and no
interface but a veth has a peer. The pattern of the name check, its comment and its message
all admit upper case letters, and the one check that ties a peer to a type asks for the peer
of a veth. Every other rule is enforced as documented.

## Main definitions

* `DocumentedRules` — the rules as documented
* `EnforcedRules` — the rules that the checks enforce

## Main results

* `enforcedRules_of_validate` — every accepted configuration obeys the enforced rules
* `documentedRules_iff_of_validate` — what an accepted configuration may lack
-/

namespace Segwire.Common

open Foundation Foundation.Text

/-- `^[a-z][a-z0-9-]*$` -/
def documentedNamePattern : List Char → Bool
  | [] => false
  | c :: rest => c.isLower && rest.all fun c => c.isLower || c.isDigit || c == '-'

/-- No name, address or network stands twice in its list. -/
structure WithoutDuplicates (config : NamespaceConfig) : Prop where
  interfaces : config.interfaces.allInterfaces.Nodup
  servers : config.dns.servers.Nodup
  search : config.dns.search.Nodup
  destinations : (config.routing.routes.map Route.destination).Nodup

/-- The rules of the documentation. -/
structure DocumentedRules (config : NamespaceConfig) : Prop where
  name : documentedNamePattern config.namespace_.name.toList = true
  peers : ∀ vif ∈ config.interfaces.virtualInterfaces,
    vif.peer.isSome ↔ vif.interfaceType = "veth"
  metrics : ∀ route ∈ config.routing.routes, ∀ metric, route.metric = some metric → 0 < metric
  unique : WithoutDuplicates config

/-- The rules of the checks: the name may have upper case letters, and a veth has a peer. -/
structure EnforcedRules (config : NamespaceConfig) : Prop where
  name : namespacePattern config.namespace_.name.toList = true
  peers : ∀ vif ∈ config.interfaces.virtualInterfaces,
    vif.interfaceType = "veth" → vif.peer.isSome
  metrics : ∀ route ∈ config.routing.routes, ∀ metric, route.metric = some metric → 0 < metric
  unique : WithoutDuplicates config

variable {config : NamespaceConfig}

theorem namespacePattern_of_validate (h : config.validate = .ok ()) :
    namespacePattern config.namespace_.name.toList = true := by
  obtain ⟨hname, -⟩ := NamespaceConfig.validate_eq_ok_iff.mp h
  exact (validateName_eq_ok_iff.mp hname).2.2

theorem peer_isSome_of_validate (h : config.validate = .ok ()) {vif : VirtualInterface}
    (hvif : vif ∈ config.interfaces.virtualInterfaces) (hveth : vif.interfaceType = "veth") :
    vif.peer.isSome := by
  obtain ⟨-, hinterfaces, -⟩ := NamespaceConfig.validate_eq_ok_iff.mp h
  obtain ⟨-, hvirtual, -⟩ := InterfaceConfig.validate_eq_ok_iff.mp hinterfaces
  obtain ⟨-, -, -, hpeer, -⟩ := VirtualInterface.validate_eq_ok_iff.mp (hvirtual vif hvif)
  exact Option.isSome_iff_ne_none.mpr fun hnone => hpeer ⟨hveth, hnone⟩

theorem metric_pos_of_validate (h : config.validate = .ok ()) {route : Route}
    (hroute : route ∈ config.routing.routes) {metric : Nat} (hmetric : route.metric = some metric) :
    0 < metric := by
  obtain ⟨-, -, hrouting, -⟩ := NamespaceConfig.validate_eq_ok_iff.mp h
  obtain ⟨-, hroutes, -⟩ := RoutingConfig.validate_eq_ok_iff.mp hrouting
  obtain ⟨-, -, hne⟩ := Route.validate_eq_ok_iff.mp (hroutes route hroute)
  apply Nat.pos_of_ne_zero
  intro hzero
  exact hne (hmetric.trans (congrArg some hzero))

theorem withoutDuplicates_of_validate (h : config.validate = .ok ()) :
    WithoutDuplicates config := by
  obtain ⟨-, hinterfaces, hrouting, hdns, -⟩ := NamespaceConfig.validate_eq_ok_iff.mp h
  obtain ⟨-, -, hnames⟩ := InterfaceConfig.validate_eq_ok_iff.mp hinterfaces
  obtain ⟨-, -, hdestinations⟩ := RoutingConfig.validate_eq_ok_iff.mp hrouting
  obtain ⟨-, -, hservers, hsearch⟩ := DnsConfig.validate_eq_ok_iff.mp hdns
  exact ⟨hasDuplicates_eq_false_iff.mp hnames, hasDuplicates_eq_false_iff.mp hservers,
    hasDuplicates_eq_false_iff.mp hsearch,
    adjacentRepeat_insertionSort_eq_none_iff.mp hdestinations⟩

/-- Every accepted configuration obeys the rules that the checks enforce. -/
theorem enforcedRules_of_validate (config : NamespaceConfig) (h : config.validate = .ok ()) :
    EnforcedRules config where
  name := namespacePattern_of_validate h
  peers _ hvif := peer_isSome_of_validate h hvif
  metrics _ hroute _ := metric_pos_of_validate h hroute
  unique := withoutDuplicates_of_validate h

section Fixture

/-- A configuration with a veth pair, a route, a DNS server and a search domain. -/
def documentedConfig : NamespaceConfig :=
  { NamespaceConfig.bare "lab" with
    interfaces := ⟨["eth1"], [⟨"veth0", "veth", some "veth1", ["10.0.0.2/24"]⟩]⟩
    routing := ⟨some "10.0.0.1", [⟨"10.1.0.0/16", "10.0.0.3", some 5⟩]⟩
    dns := ⟨["10.0.0.53"], ["lab.example.org"]⟩ }

/-- The same configuration under a name with an upper case letter. -/
def upperCaseConfig : NamespaceConfig := { documentedConfig with namespace_ := ⟨"Lab", ""⟩ }

/-- A bridge with a peer, which nothing looks at. -/
def peeredBridgeConfig : NamespaceConfig :=
  { NamespaceConfig.bare "lab" with
    interfaces := ⟨[], [⟨"br0", "bridge", some "br1", []⟩]⟩ }

end Fixture

theorem enforcedRules_documentedConfig : EnforcedRules documentedConfig :=
  enforcedRules_of_validate documentedConfig (by decide)

/-- An upper case letter in the name and the peer of a bridge are both accepted. -/
theorem not_documentedRules :
    (upperCaseConfig.validate = .ok () ∧
      documentedNamePattern upperCaseConfig.namespace_.name.toList = false) ∧
    (peeredBridgeConfig.validate = .ok () ∧
      documentedNamePattern peeredBridgeConfig.namespace_.name.toList = true ∧
      ¬ DocumentedRules peeredBridgeConfig) ∧
    ¬ ∀ config : NamespaceConfig, config.validate = .ok () → DocumentedRules config := by
  have hbridge : ¬ DocumentedRules peeredBridgeConfig := by
    intro h
    have hveth := (h.peers ⟨"br0", "bridge", some "br1", []⟩ List.mem_cons_self).mp rfl
    exact absurd hveth (by decide)
  exact ⟨⟨by decide, by decide⟩, ⟨by decide, by decide, hbridge⟩,
    fun hall => hbridge (hall _ (by decide))⟩

/-! ### What an accepted configuration may lack -/

theorem isUpper_eq_false_of_isLower {c : Char} (h : c.isLower = true) : c.isUpper = false := by
  rw [isLower_iff_toNat] at h
  rw [Bool.eq_false_iff, ne_eq, isUpper_iff_toNat]
  omega

theorem isUpper_eq_false_of_isDigit {c : Char} (h : c.isDigit = true) : c.isUpper = false := by
  rw [isDigit_iff_toNat] at h
  rw [Bool.eq_false_iff, ne_eq, isUpper_iff_toNat]
  omega

theorem isLower_iff {c : Char} : c.isLower = true ↔ c.isAlpha = true ∧ c.isUpper = false := by
  rw [isAlpha_iff]
  constructor
  · exact fun h => ⟨.inr h, isUpper_eq_false_of_isLower h⟩
  · rintro ⟨hupper | hlower, h⟩
    · rw [hupper] at h
      cases h
    · exact hlower

theorem documentedNameChar_iff {c : Char} :
    (c.isLower || c.isDigit || c == '-') = true ↔ isNameChar c = true ∧ c.isUpper = false := by
  simp only [isNameChar, Bool.or_eq_true, beq_iff_eq, isLower_iff, isAlphanum_iff]
  constructor
  · rintro ((⟨halpha, hupper⟩ | hdigit) | rfl)
    · exact ⟨.inl (.inl halpha), hupper⟩
    · exact ⟨.inl (.inr hdigit), isUpper_eq_false_of_isDigit hdigit⟩
    · exact ⟨.inr rfl, by decide⟩
  · rintro ⟨(halpha | hdigit) | rfl, hupper⟩
    · exact .inl (.inl ⟨halpha, hupper⟩)
    · exact .inl (.inr hdigit)
    · exact .inr rfl

/-- The documented pattern is the one of the check without its upper case letters. -/
theorem documentedNamePattern_iff {s : List Char} :
    documentedNamePattern s = true ↔ namespacePattern s = true ∧ ∀ c ∈ s, c.isUpper = false := by
  cases s with
  | nil => simp [documentedNamePattern, namespacePattern]
  | cons c rest =>
    rw [documentedNamePattern, namespacePattern, Bool.and_eq_true, Bool.and_eq_true,
      List.all_eq_true, List.all_eq_true, List.forall_mem_cons, isLower_iff]
    simp only [documentedNameChar_iff, forall_and]
    exact and_and_and_comm

/-- An accepted configuration obeys the documentation unless its name has an upper case letter or
an interface other than a veth has a peer. -/
theorem documentedRules_iff_of_validate (h : config.validate = .ok ()) :
    DocumentedRules config ↔
      (∀ c ∈ config.namespace_.name.toList, c.isUpper = false) ∧
        ∀ vif ∈ config.interfaces.virtualInterfaces, vif.interfaceType ≠ "veth" →
          vif.peer = none := by
  constructor
  · intro hrules
    refine ⟨(documentedNamePattern_iff.mp hrules.name).2, fun vif hvif hother => ?_⟩
    apply Option.not_isSome_iff_eq_none.mp
    exact fun hsome => hother ((hrules.peers vif hvif).mp hsome)
  · rintro ⟨hlower, hpeers⟩
    refine ⟨documentedNamePattern_iff.mpr ⟨namespacePattern_of_validate h, hlower⟩,
      fun vif hvif => ⟨fun hsome => ?_, peer_isSome_of_validate h hvif⟩,
      fun _ hroute _ => metric_pos_of_validate h hroute, withoutDuplicates_of_validate h⟩
    by_contra hother
    rw [hpeers vif hvif hother] at hsome
    cases hsome

end Segwire.Common
