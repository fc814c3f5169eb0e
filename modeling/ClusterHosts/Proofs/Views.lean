import ClusterHosts.Inventory
import ClusterHosts.Proofs.Readback

/-! # Views of an inventory

A script looks up single attributes of an inventory or takes it as a struct, and a program reads it
as JSON. All of them see the same hosts and settings (`Inventory.views_agree`). The JSON has its
members in another order, and leaves out a missing path, which is `None` in a struct.
-/

namespace ClusterHosts

/-- The attributes without one if that is `None`. -/
def Attributes.withoutNone (attributes : Attributes) (name : String) : Attributes where
  entries := attributes.entries.filter fun entry => !(entry.1 == name && entry.2.isNone)
  increasing := attributes.increasing.filter _

/-- A natural number of 32 bits is the same number as JSON. -/
theorem Value.json_ofNat {n : Nat} (small : n < UInt32.size) : (ofNat n).json = .integer n := by
  have size : UInt32.size = 4294967296 := rfl
  rw [ofNat, json, Int64.toInt_ofNat_of_lt (by omega)]

/-- A list of texts is a list of texts as JSON. -/
theorem Value.jsonItems_map_string (texts : List String) :
    jsonItems (texts.map .string) = texts.map .string := by
  induction texts with
  | nil => rfl
  | cons text texts ih => rw [List.map_cons, List.map_cons, jsonItems, json, ih]

/-- A list of texts is in canonical form. -/
theorem Json.canonicalItems_map_string (texts : List String) :
    canonicalItems (texts.map .string) = texts.map .string := by
  induction texts with
  | nil => rfl
  | cons text texts ih =>
      rw [List.map_cons, canonicalItems, ih]
      rfl

namespace SshSettings

variable (settings : SshSettings)

theorem port_lt : settings.port.toNat < UInt32.size :=
  Nat.lt_trans settings.port.toNat_lt (by decide)

/-- The numbers among the settings, by the names that all views give them. -/
def numbers : List (String × Nat) := [("port", settings.port.toNat),
  ("max_retries", settings.maxRetries.toNat), ("conn_timeout", settings.connTimeout.toNat)]

section

variable {settings} {name : String} {n : Nat}

/-- The numbers of settings are numbers as JSON. -/
theorem json_of_mem_numbers (inside : (name, n) ∈ settings.numbers) :
    (Value.ofNat n).json = .integer n := by
  simp only [numbers, List.mem_cons, Prod.mk.injEq, List.not_mem_nil, or_false] at inside
  rcases inside with ⟨_, rfl⟩ | ⟨_, rfl⟩ | ⟨_, rfl⟩
  · exact Value.json_ofNat settings.port_lt
  · exact Value.json_ofNat settings.maxRetries.toNat_lt
  · exact Value.json_ofNat settings.connTimeout.toNat_lt

/-- Scripts find the numbers of settings under their names. -/
theorem get?_of_mem_numbers (inside : (name, n) ∈ settings.numbers) :
    settings.toAttributes.get? name = some (.ofNat n) := by
  rw [get?_toAttributes]
  simp only [numbers, List.mem_cons, Prod.mk.injEq, List.not_mem_nil, or_false] at inside
  rcases inside with ⟨rfl, rfl⟩ | ⟨rfl, rfl⟩ | ⟨rfl, rfl⟩ <;> rfl

/-- The JSON of settings has their numbers under their names. -/
theorem member?_of_mem_numbers (inside : (name, n) ∈ settings.numbers) :
    settings.json.member? name = some (.integer n) := by
  simp only [numbers, List.mem_cons, Prod.mk.injEq, List.not_mem_nil, or_false] at inside
  rcases inside with ⟨rfl, rfl⟩ | ⟨rfl, rfl⟩ | ⟨rfl, rfl⟩ <;>
    cases path : settings.privateKeyPath <;> simp [json, path, Json.member?, List.lookup_cons]

end

/-- The attributes of settings in the order of their names. -/
theorem entries_toAttributes : settings.toAttributes.entries = [
    ("conn_timeout", .ofNat settings.connTimeout.toNat),
    ("max_retries", .ofNat settings.maxRetries.toNat), ("port", .ofNat settings.port.toNat),
    ("private_key_path", .ofText? settings.privateKeyPath),
    ("username", .string settings.username)] := by
  simp only [toAttributes, Attributes.ofList, Ordered.ofList, Ordered.insert, List.foldl_cons,
    List.foldl_nil, String.reduceLT, String.reduceEq, if_true, if_false]

/-- The JSON of settings in the order of the names. -/
theorem canonical_json : settings.json.canonical = .object ([
      ("conn_timeout", .integer settings.connTimeout.toNat),
      ("max_retries", .integer settings.maxRetries.toNat),
      ("port", .integer settings.port.toNat)] ++
    settings.privateKeyPath.toList.map (fun path => ("private_key_path", .string path)) ++
      [("username", .string settings.username)]) := by
  rw [json, Json.canonical]
  cases settings.privateKeyPath <;>
    simp only [Json.canonicalMembers, Json.canonical, Json.integer, Option.toList_none,
      Option.toList_some, List.map_nil, List.map_cons, List.nil_append, List.cons_append,
      Ordered.ofList, Ordered.insert, List.foldl_cons, List.foldl_nil, String.reduceLT,
      String.reduceEq, if_true, if_false]

/-- The settings as a struct and as JSON differ in a missing path and the order. -/
theorem json_withoutNone :
    (settings.toAttributes.withoutNone "private_key_path").value.json =
      settings.json.canonical := by
  have port := Value.json_ofNat settings.port_lt
  have maxRetries := Value.json_ofNat settings.maxRetries.toNat_lt
  have connTimeout := Value.json_ofNat settings.connTimeout.toNat_lt
  rw [canonical_json, Attributes.value, Attributes.withoutNone, Value.json]
  simp only [entries_toAttributes]
  cases settings.privateKeyPath <;>
    simp [Value.jsonAttributes, Value.json, Value.isNone, Value.ofText?, port, maxRetries,
      connTimeout]

end SshSettings

namespace Inventory

variable (inventory : Inventory)

/-- A script finds the attributes that the struct has. -/
theorem attribute?_eq_get? (name : String) :
    inventory.attribute? name = inventory.toAttributes.get? name := by
  have found : inventory.toAttributes.get? name = [("kind", .string kind),
      ("transport", .string transport), ("hosts", .ofTexts inventory.hosts),
      ("ssh_config", inventory.ssh.toAttributes.value)].lookup name := by
    apply Attributes.get?_ofList
    exact (by decide : ["kind", "transport", "hosts", "ssh_config"].Nodup)
  rw [found]
  unfold attribute?
  split
  · rfl
  · rfl
  · rfl
  · rfl
  · simp_all [List.lookup_cons, beq_false_of_ne]

/-- The inventory as a struct and as JSON differ in a missing path and the order. -/
theorem json_set_ssh_config :
    (inventory.toAttributes.set "ssh_config"
      (inventory.ssh.toAttributes.withoutNone "private_key_path").value).value.json =
        inventory.json.canonical := by
  have hosts : (Value.ofTexts inventory.hosts).json =
      .array (inventory.hosts.map .string) := by
    rw [Value.ofTexts, Value.json, Value.jsonItems_map_string]
  have entries : (inventory.toAttributes.set "ssh_config"
      (inventory.ssh.toAttributes.withoutNone "private_key_path").value).entries = [
        ("hosts", .ofTexts inventory.hosts), ("kind", .string kind),
        ("ssh_config", (inventory.ssh.toAttributes.withoutNone "private_key_path").value),
        ("transport", .string transport)] := by
    simp only [toAttributes, Attributes.set, Attributes.ofList, Ordered.ofList, Ordered.insert,
      List.foldl_cons, List.foldl_nil, String.reduceLT, String.reduceEq, if_true, if_false]
  have canonical : inventory.json.canonical = .object [
      ("hosts", .array (inventory.hosts.map .string)), ("kind", .string kind),
      ("ssh_config", inventory.ssh.json.canonical), ("transport", .string transport)] := by
    simp only [json, Json.canonical, Json.canonicalMembers, Json.canonicalItems_map_string,
      Ordered.ofList, Ordered.insert, List.foldl_cons, List.foldl_nil, String.reduceLT,
      String.reduceEq, if_true, if_false]
  rw [canonical, Attributes.value, entries]
  simp only [Value.json, Value.jsonAttributes, hosts, SshSettings.json_withoutNone]

/-- **All views of an inventory agree.** A script finds the attributes that the struct has; the JSON
is that of the struct without a missing path, up to the order of members. So the hosts and the
numbers are the same wherever they are looked up. -/
theorem views_agree :
    (∀ name, inventory.attribute? name = inventory.toAttributes.get? name) ∧
      inventory.json.canonical = (inventory.toAttributes.set "ssh_config"
        (inventory.ssh.toAttributes.withoutNone "private_key_path").value).value.json ∧
      (inventory.toAttributes.get? "hosts" = some (.list (inventory.hosts.map .string)) ∧
        inventory.json.member? "hosts" = some (.array (inventory.hosts.map .string))) ∧
      inventory.toAttributes.get? "ssh_config" = some inventory.ssh.toAttributes.value ∧
      ∀ name n, (name, n) ∈ inventory.ssh.numbers →
        inventory.ssh.toAttributes.get? name = some (.ofNat n) ∧ (Value.ofNat n).json = .integer n ∧
          (inventory.json.member? "ssh_config").bind (Json.member? name) = some (.integer n) := by
  have hosts := inventory.attribute?_eq_get? "hosts"
  have settings := inventory.attribute?_eq_get? "ssh_config"
  refine ⟨inventory.attribute?_eq_get?, inventory.json_set_ssh_config.symm, ⟨hosts.symm, rfl⟩,
    settings.symm, fun name n inside => ⟨?_, ?_, ?_⟩⟩
  · exact SshSettings.get?_of_mem_numbers inside
  · exact SshSettings.json_of_mem_numbers inside
  · exact SshSettings.member?_of_mem_numbers inside

end Inventory

end ClusterHosts
