import Degc.Api.V1alpha1

/-!
# The running containers

What Docker lists of the running containers, and the targets that are read from
it.
-/

namespace Degc

open Net
open Std (TreeMap)

/-- A running container. -/
structure Target where
  name : String
  labels : Labels
  /-- The network attachments: the addresses of the container on each network. -/
  networks : TreeMap String (List IpAddr)

/-- All addresses of a container, network by network. -/
def Target.addrs (t : Target) : List IpAddr := t.networks.values.flatten

/-- No two containers share an address. -/
def AddrsApart (targets : List Target) : Prop :=
  ∀ t ∈ targets, ∀ u ∈ targets, t.name ≠ u.name → ∀ ip ∈ t.addrs, ip ∉ u.addrs

/-- A container with the given labels and network attachments. -/
def Target.ofLists (name : String) (labels : List (String × String))
    (networks : List (String × List IpAddr)) : Target :=
  { name := name, labels := .ofList labels, networks := .ofList networks }

/-! ### The list of containers -/

/-- What Docker lists of the attachment of a container to a network. -/
structure EndpointSettings where
  ipAddress : Option String := none
  globalIpv6Address : Option String := none

/-- What Docker lists of the networks of a container. -/
structure NetworkSettings where
  networks : Option (TreeMap String EndpointSettings) := none

/-- What Docker lists of a container. -/
structure ContainerSummary where
  names : Option (List String) := none
  labels : Option Labels := none
  networkSettings : Option NetworkSettings := none

/-- The address texts of an attachment. -/
def EndpointSettings.texts (e : EndpointSettings) : List String :=
  e.ipAddress.toList ++ e.globalIpv6Address.toList

/-- The addresses of an attachment: empty texts and texts that are no addresses are left out. -/
def EndpointSettings.addrs (e : EndpointSettings) : List IpAddr :=
  (e.texts.filter (· ≠ "")).filterMap parseIp

/-- A name without the slashes at its beginning. -/
def trimSlashes (s : String) : String := String.ofList (s.toList.dropWhile (· == '/'))

/-- The attachments that Docker lists. -/
def ContainerSummary.endpoints (c : ContainerSummary) : TreeMap String EndpointSettings :=
  (c.networkSettings.bind (·.networks)).getD ∅

/-- The target a listed container becomes. -/
def ContainerSummary.target (c : ContainerSummary) : Target :=
  { name := ((c.names.bind (·.head?)).map trimSlashes).getD ""
    labels := c.labels.getD ∅
    -- a network on which the container has no address is left out as a whole
    networks := (c.endpoints.map fun _ e => e.addrs).filter fun _ addrs => !addrs.isEmpty }

/-- The targets, given what Docker answers to the list request. -/
def listTargets (answer : Except String (List ContainerSummary)) : Except String (List Target) :=
  (withContext "listing containers" answer).map fun cs => cs.map (·.target)

/-- A container has an address on one of its networks. -/
def ContainerSummary.HasAddr (c : ContainerSummary) : Prop :=
  ∃ (net : String) (e : EndpointSettings), c.endpoints[net]? = some e ∧
    ∃ s ∈ e.texts, (parseIp s).isSome = true

lemma values_eq_map_toList {β : Type} (m : TreeMap String β) : m.values = m.toList.map (·.2) := by
  -- both are read off the same list of entries
  have hvalues := Std.DTreeMap.Internal.Impl.values_eq_map_snd (t := m.inner.inner)
  have hlist := Std.DTreeMap.Internal.Impl.Const.toList_eq_toListModel_map (t := m.inner.inner)
  have h : m.inner.inner.values
      = (Std.DTreeMap.Internal.Impl.Const.toList m.inner.inner).map (·.2) := by
    rw [hvalues, hlist]
    simp
  exact h

lemma mem_addrs_endpoint {e : EndpointSettings} {ip : IpAddr} :
    ip ∈ e.addrs ↔ ∃ s ∈ e.texts, parseIp s = some ip := by
  simp only [EndpointSettings.addrs, List.mem_filterMap, List.mem_filter, decide_eq_true_eq]
  constructor
  · rintro ⟨s, ⟨hs, -⟩, hip⟩
    exact ⟨s, hs, hip⟩
  · rintro ⟨s, hs, hip⟩
    refine ⟨s, ⟨hs, ?_⟩, hip⟩
    -- an empty text is no address
    rintro rfl
    exact absurd hip (by simp [show parseIp "" = none from by decide])

/-- The addresses of a target are those of the attachments. -/
lemma mem_addrs_target {c : ContainerSummary} {ip : IpAddr} :
    ip ∈ c.target.addrs ↔
      ∃ (net : String) (e : EndpointSettings), c.endpoints[net]? = some e ∧ ip ∈ e.addrs := by
  simp only [Target.addrs, ContainerSummary.target, List.mem_flatten, values_eq_map_toList,
    TreeMap.toList_filter, TreeMap.toList_map, List.mem_map, List.mem_filter, Prod.exists]
  constructor
  · rintro ⟨_, ⟨_, _, ⟨⟨net, e, he, heq⟩, -⟩, rfl⟩, hip⟩
    obtain ⟨-, rfl⟩ := Prod.mk.inj heq
    exact ⟨net, e, TreeMap.mem_toList_iff_getElem?_eq_some.1 he, hip⟩
  · rintro ⟨net, e, he, hip⟩
    refine ⟨e.addrs, ⟨net, e.addrs, ⟨⟨net, e, TreeMap.mem_toList_iff_getElem?_eq_some.2 he, rfl⟩,
      ?_⟩, rfl⟩, hip⟩
    simpa using List.ne_nil_of_mem hip

/-- A target has an address exactly when Docker lists one for the container. -/
lemma addrs_target_ne_nil {c : ContainerSummary} : c.target.addrs ≠ [] ↔ c.HasAddr := by
  simp only [ContainerSummary.HasAddr, Option.isSome_iff_exists]
  constructor
  · intro h
    obtain ⟨ip, hip⟩ := List.exists_mem_of_ne_nil _ h
    obtain ⟨net, e, he, hip⟩ := mem_addrs_target.1 hip
    obtain ⟨s, hs, hip⟩ := mem_addrs_endpoint.1 hip
    exact ⟨net, e, he, s, hs, ip, hip⟩
  · rintro ⟨net, e, he, s, hs, ip, hip⟩
    exact List.ne_nil_of_mem (mem_addrs_target.2 ⟨net, e, he, mem_addrs_endpoint.2 ⟨s, hs, hip⟩⟩)

end Degc
