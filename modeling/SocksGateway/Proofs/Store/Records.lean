import SocksGateway.Proofs.Address.Ipv6
import SocksGateway.Proofs.Document.Json
import SocksGateway.Store.Hosts
import SocksGateway.Store.Networks

/-!
Records read back from the text of their file: users, networks with their members, and hosts with their
addresses, whatever characters are in their names.
-/

set_option autoImplicit false

namespace SocksGateway

namespace Document

theorem slot?_of_mem {entries : List (String × Value)} {entry : String × Value}
    (distinct : (entries.map Prod.fst).Nodup) (listed : entry ∈ entries) :
    slot? entries entry.1 = some (some entry.2) := by
  have alone : entries.filter (·.1 == entry.1) = [entry] := by
    induction entries with
    | nil => cases listed
    | cons first others ih =>
      obtain ⟨absent, rest⟩ := List.nodup_cons.mp distinct
      obtain rfl | later := List.mem_cons.mp listed
      · have none : others.filter (·.1 == entry.1) = [] := by
          apply List.filter_eq_nil_iff.mpr
          intro other found same
          exact absent (beq_iff_eq.mp same ▸ List.mem_map_of_mem found)
        rw [List.filter_cons, none, if_pos BEq.rfl]
      · have different : ¬ (first.1 == entry.1) = true := by
          intro same
          exact absent (beq_iff_eq.mp same ▸ List.mem_map_of_mem later)
        rw [List.filter_cons, if_neg different, ih rest later]
  rw [slot?, alone]

/-- A record with a value for each field gives these values. -/
theorem slots?_record {dialect : Dialect} {names : List String} {entries : List (String × Value)}
    (fields : entries.map Prod.fst = names) (distinct : names.Nodup) :
    slots? dialect names (.record entries) = some (entries.map fun entry => some entry.2) := by
  subst fields
  have each (part : List (String × Value)) (included : ∀ entry ∈ part, entry ∈ entries) :
      (part.map Prod.fst).mapM (slot? entries) = some (part.map fun entry => some entry.2) := by
    induction part with
    | nil => rfl
    | cons entry others ih =>
      rw [List.map_cons, List.mapM_cons, slot?_of_mem distinct (included entry List.mem_cons_self),
        ih fun other listed => included other (List.mem_cons_of_mem entry listed)]
      rfl
  exact each entries fun _ listed => listed

theorem list?_map {α : Type} {read : Value → Option α} {write : α → Value}
    (each : ∀ item, read (write item) = some item) (items : List α) :
    list? read (.list (items.map write)) = some items := by
  unfold list?
  induction items with
  | nil => rfl
  | cons item items ih =>
    simp only [List.map_cons, List.mapM_cons, each, ih, Option.bind_eq_bind, Option.bind_some]
    rfl

theorem isTextual_list_map {α : Type} {write : α → Value} (each : ∀ item, (write item).IsTextual)
    (items : List α) : (Value.list (items.map write)).IsTextual := by
  refine .list ?_
  intro value listed
  obtain ⟨item, _, rfl⟩ := List.mem_map.mp listed
  exact each item

end Document

open Document

namespace Recorded

/-- Records that are written to documents of texts, lists and records, and read back from these. -/
class IsFaithful (α : Type) [Recorded α] : Prop where
  isTextual_toValue (record : α) : (toValue record).IsTextual
  ofValue?_toValue (record : α) : ofValue? (toValue record) = some record

open IsFaithful

instance : IsFaithful User where
  isTextual_toValue user :=
    .record (List.forall_mem_cons.mpr ⟨.text _, List.forall_mem_singleton.mpr (.text _)⟩)
  ofValue?_toValue user := by
    have given : slots? Json.dialect ["username", "password"] (toValue user) =
        some [some (.text user.name), some (.text user.passwordHash)] :=
      slots?_record rfl (by decide)
    simp only [ofValue?, given]
    rfl

instance : IsFaithful Member where
  isTextual_toValue member :=
    .record (List.forall_mem_cons.mpr ⟨.text _, List.forall_mem_singleton.mpr (.text _)⟩)
  ofValue?_toValue member := by
    have given : slots? Json.dialect ["username", "assigned_ip"] (toValue member) =
        some [some (.text member.name), some (.text member.address.text)] :=
      slots?_record rfl (by decide)
    simp only [ofValue?, given, needed, text?, Option.bind_eq_bind, Option.bind_some,
      Ipv4.parse?_text]
    rfl

instance : IsFaithful PrivateNetwork where
  isTextual_toValue network := by
    have members := isTextual_list_map isTextual_toValue network.members
    exact .record (List.forall_mem_cons.mpr ⟨.text _, List.forall_mem_cons.mpr ⟨.text _,
      List.forall_mem_cons.mpr ⟨.text _, List.forall_mem_singleton.mpr members⟩⟩⟩)
  ofValue?_toValue network := by
    have members := list?_map ofValue?_toValue network.members
    have given : slots? Json.dialect ["id", "name", "ip_range", "members"] (toValue network) =
        some [some (.text network.id), some (.text network.name), some (.text network.range),
          some (.list (network.members.map toValue))] :=
      slots?_record rfl (by decide)
    simp only [ofValue?, given, needed, text?, defaulted, Option.bind_eq_bind, Option.bind_some]
    exact Option.bind_eq_some_iff.mpr ⟨network.members, members, rfl⟩

instance : IsFaithful HostRecord where
  isTextual_toValue host := by
    have addresses := isTextual_list_map (fun ip : Ip => .text ip.text) host.addresses
    exact .record (List.forall_mem_cons.mpr ⟨.text _, List.forall_mem_singleton.mpr addresses⟩)
  ofValue?_toValue host := by
    have addresses : list? Document.ip? (.list (host.addresses.map fun ip => .text ip.text)) =
        some host.addresses :=
      list?_map (fun ip => ip.parse?_text) host.addresses
    have given : slots? Json.dialect ["hostname", "addresses"] (toValue host) =
        some [some (.text host.name), some (.list (host.addresses.map fun ip => .text ip.text))] :=
      slots?_record rfl (by decide)
    simp only [ofValue?, given, needed, text?, Option.bind_eq_bind, Option.bind_some, addresses]
    rfl

end Recorded

namespace Store

variable {α : Type} [Recorded α]

open Recorded.IsFaithful

/-- Records read back from the text of their file. -/
theorem parse?_render [Recorded.IsFaithful α] (records : List α) :
    parse? (render records) = some records := by
  have textual := isTextual_list_map isTextual_toValue records
  have blank : Text.isBlank (render records) = false := by
    obtain ⟨tail, starts⟩ := Json.exists_written_list 0 (records.map Recorded.toValue)
    rw [Text.isBlank, render, Json.render, String.toList_ofList, starts, List.all_cons]
    rfl
  rw [parse?, blank, if_neg Bool.false_ne_true, render, Json.parse?_render textual]
  exact list?_map ofValue?_toValue records

theorem load_of_read [Recorded.IsFaithful α] {file : DataFile} {records : List α}
    (held : file.read = some (render records)) : load file = .ok { records, file } := by
  simp only [load, held, parse?_render]

end Store

end SocksGateway
