import WeakNet.Foundation.Digits
import WeakNet.NetlinkTopology

/-! `RouteFact::identity` writes the modelled content of a route as text, which determines it: no
field holds the separator, addresses have one width and every nexthop ends with a mark of its own. -/

namespace WeakNet
open List RouteNexthop

theorem RouteNexthop.sort_sort (nexthops : List RouteNexthop) :
    sort (sort nexthops) = sort nexthops :=
  List.Pairwise.insertionSort_eq (pairwise_insertionSort _ _)

theorem RouteNexthop.sort_eq_iff {a b : List RouteNexthop} : sort a = sort b ↔ a.Perm b := by
  have hperm : ∀ l : List RouteNexthop, (sort l).Perm l := perm_insertionSort _
  constructor <;> intro h
  · exact (hperm a).symm.trans (h ▸ hperm b)
  · exact ((hperm a).trans (h.trans (hperm b).symm)).eq_of_pairwise' (pairwise_insertionSort _ a)
      (pairwise_insertionSort _ b)

namespace RouteFact
open Foundation.Digits

def content (r : RouteFact) : RouteFact :=
  { r with
    multipath := RouteNexthop.sort r.multipath
    present := true
    attributeMask := ∅ }

theorem isDigit_hexadecimal (n : ℕ) : ∀ c ∈ hexadecimal n, IsDigit c :=
  isDigit_of_mem_toDigits (by omega) (by omega) n

theorem hexByte_digits (b : UInt8) : b.toNat / 16 < 16 ∧ b.toNat % 16 < 16 := by
  have hlt := b.toNat_lt
  omega

theorem isDigit_hexAddress (a : Address) : ∀ c ∈ hexAddress a, IsDigit c := by
  intro c hc
  obtain ⟨b, -, hb⟩ := mem_flatMap.mp hc
  obtain ⟨hhigh, hlow⟩ := hexByte_digits b
  rcases mem_cons.mp hb with rfl | hb
  · exact ⟨_, hhigh, rfl⟩
  · exact ⟨_, hlow, mem_singleton.mp hb⟩

theorem hexByte_injective : Function.Injective hexByte := by
  intro a b h
  obtain ⟨ha, ha'⟩ := hexByte_digits a
  obtain ⟨hb, hb'⟩ := hexByte_digits b
  simp only [hexByte, List.cons.injEq, and_true] at h
  have hhigh := digitChar_injOn ha hb h.1
  have hlow := digitChar_injOn ha' hb' h.2
  apply UInt8.toNat_inj.mp
  omega

theorem hexAddress_injective : Function.Injective hexAddress := by
  intro a b h
  have hlen : a.bytes.length = b.bytes.length := a.length_eq.trans b.length_eq.symm
  have hwidth : ∀ b, (hexByte b).length = 2 := fun _ => rfl
  have hbytes := flatMap_inj_of_length hexByte_injective hwidth hlen h
  cases a
  cases b
  exact Address.mk.injEq _ _ _ _ ▸ hbytes

theorem length_hexAddress (a : Address) : (hexAddress a).length = 32 := by
  rw [hexAddress, length_flatMap]
  simp [hexByte, a.length_eq]

def nexthopBody (n : RouteNexthop) : List Char :=
  [','].intercalate [hexadecimal n.ifindex, hexadecimal n.hops,
    [';'].intercalate [hexadecimal n.flags, hexAddress n.gateway]]

section
variable (n : RouteNexthop)
theorem nexthopText_eq : nexthopText n = nexthopBody n ++ ['|'] := by
  simp [nexthopText, nexthopBody, List.intercalate]

theorem nexthopBody_chars :
    ∀ c ∈ nexthopBody n, IsDigit c ∨ c = ',' ∨ c = ';' := by
  intro c hc
  simp only [nexthopBody, List.intercalate, List.intersperse, flatten_cons, flatten_nil,
    mem_append, mem_singleton, append_nil] at hc
  rcases hc with hc | rfl | hc | rfl | hc | rfl | hc
  · exact .inl (isDigit_hexadecimal _ c hc)
  · exact .inr (.inl rfl)
  · exact .inl (isDigit_hexadecimal _ c hc)
  · exact .inr (.inl rfl)
  · exact .inl (isDigit_hexadecimal _ c hc)
  · exact .inr (.inr rfl)
  · exact .inl (isDigit_hexAddress _ c hc)

theorem nexthopBody_free {c : Char} (hc : c ∈ [':', '|']) :
    c ∉ nexthopBody n := by
  intro hmem
  rcases nexthopBody_chars n c hmem with hdigit | rfl | rfl
  · refine not_isDigit_of_mem ?_ hdigit
    simp only [mem_cons, not_mem_nil, or_false] at hc ⊢
    tauto
  all_goals exact absurd hc (by decide)
end

theorem nexthopBody_injective : Function.Injective nexthopBody := by
  have htail : ∀ n : RouteNexthop, ∀ field ∈ [hexadecimal n.flags, hexAddress n.gateway],
      ';' ∉ field ∧ ',' ∉ field := by
    intro n
    rw [forall_mem_cons, forall_mem_singleton]
    exact ⟨⟨not_mem_of_digits (isDigit_hexadecimal _) (by decide),
        not_mem_of_digits (isDigit_hexadecimal _) (by decide)⟩,
      not_mem_of_digits (isDigit_hexAddress _) (by decide),
      not_mem_of_digits (isDigit_hexAddress _) (by decide)⟩
  have hfields : ∀ n : RouteNexthop, ∀ field ∈ [hexadecimal n.ifindex, hexadecimal n.hops,
      [';'].intercalate [hexadecimal n.flags, hexAddress n.gateway]], ',' ∉ field := by
    intro n
    have hflags := (htail n _ mem_cons_self).2
    have hgateway := (htail n _ (mem_cons_of_mem _ mem_cons_self)).2
    rw [forall_mem_cons, forall_mem_cons, forall_mem_singleton]
    refine ⟨not_mem_of_digits (isDigit_hexadecimal _) (by decide),
      not_mem_of_digits (isDigit_hexadecimal _) (by decide), ?_⟩
    simp [List.intercalate, hflags, hgateway]
  intro a b h
  have houter := intercalate_inj (by simp) (by simp) (hfields a) (hfields b) h
  simp only [List.cons.injEq, and_true] at houter
  obtain ⟨hifindex, hhops, hrest⟩ := houter
  have hinner := intercalate_inj (by simp) (by simp) (fun f hf => (htail a f hf).1)
    (fun f hf => (htail b f hf).1) hrest
  simp only [List.cons.injEq, and_true] at hinner
  obtain ⟨hflags, hgateway⟩ := hinner
  obtain ⟨i, g, p, f⟩ := a
  obtain ⟨i', g', p', f'⟩ := b
  have hdigits := toDigits_injective (by omega : 1 < 16) (by omega)
  obtain rfl : i = i' := hdigits hifindex
  obtain rfl : p = p' := hdigits hhops
  obtain rfl : f = f' := hdigits hflags
  obtain rfl : g = g' := hexAddress_injective hgateway
  rfl

theorem nexthopsText_eq (nexthops : List RouteNexthop) :
    nexthops.flatMap nexthopText = ['|'].intercalate (nexthops.map nexthopBody ++ [[]]) := by
  rw [← flatMap_terminated]
  exact congrArg nexthops.flatMap (funext nexthopText_eq)

theorem nexthopsText_injective :
    Function.Injective fun nexthops : List RouteNexthop => nexthops.flatMap nexthopText := by
  intro a b h
  have hfields : ∀ nexthops : List RouteNexthop, ∀ field ∈ nexthops.map nexthopBody ++ [[]],
      '|' ∉ field := by
    intro nexthops
    rw [forall_mem_append, forall_mem_map, forall_mem_singleton]
    exact ⟨fun n _ => nexthopBody_free n (by decide), not_mem_nil⟩
  simp only [nexthopsText_eq] at h
  have hbodies := intercalate_inj (by simp) (by simp) (hfields a) (hfields b) h
  exact map_injective_iff.mpr nexthopBody_injective (append_cancel_right hbodies)

def fields (r : RouteFact) : List (List Char) :=
  [decimal r.netns.device, decimal r.netns.inode, decimal r.family, decimal r.destinationPrefix,
    decimal r.table, decimal r.priority, decimal r.protocol, decimal r.scope, decimal r.type,
    hexAddress r.destination, r.outputIfindex.elim ['-'] decimal, r.gateway.elim [] hexAddress,
    ['s', 'r', 'c', '='] ++ r.preferredSource.elim ['-'] hexAddress,
    (RouteNexthop.sort r.multipath).flatMap nexthopText]

theorem identity_eq_intercalate (r : RouteFact) : r.identity = [':'].intercalate r.fields := by
  simp [identity, fields, List.intercalate]

theorem decimal_free (n : ℕ) : ':' ∉ decimal n :=
  not_mem_toDigits (by omega) (by omega) (by decide) n

theorem hexAddress_free (a : Address) : ':' ∉ hexAddress a :=
  not_mem_of_digits (isDigit_hexAddress a) (by decide)

theorem nexthopsText_free (nexthops : List RouteNexthop) :
    ':' ∉ nexthops.flatMap nexthopText := by
  intro hmem
  obtain ⟨n, -, hn⟩ := mem_flatMap.mp hmem
  rw [nexthopText_eq, mem_append] at hn
  rcases hn with hbody | hlast
  · exact nexthopBody_free n (by decide) hbody
  · exact absurd hlast (by decide)

theorem fields_free (r : RouteFact) : ∀ field ∈ r.fields, ':' ∉ field := by
  have hsource : ':' ∉ ['s', 'r', 'c', '='] ++ r.preferredSource.elim ['-'] hexAddress := by
    rw [mem_append, not_or]
    exact ⟨by decide, not_mem_elim (by decide) hexAddress_free _⟩
  simp only [fields, forall_mem_cons]
  exact ⟨decimal_free _, decimal_free _, decimal_free _, decimal_free _, decimal_free _,
    decimal_free _, decimal_free _, decimal_free _, decimal_free _, hexAddress_free _,
    not_mem_elim (by decide) decimal_free _, not_mem_elim not_mem_nil hexAddress_free _, hsource,
    nexthopsText_free _, forall_mem_nil _⟩

theorem content_of_fields {a b : RouteFact} (h : a.fields = b.fields) : a.content = b.content := by
  have hdecimal := toDigits_injective (by omega : 1 < 10) (by omega)
  have hdash : ∀ n, decimal n ≠ ['-'] := fun n hn =>
    not_mem_toDigits (by omega) (by omega) (by decide : '-' ∈ _) n (hn ▸ mem_cons_self)
  have haddress : ∀ (x : Address) (text : List Char), text.length < 32 → hexAddress x ≠ text := by
    intro x text hshort hx
    rw [← hx, length_hexAddress] at hshort
    omega
  simp only [fields, List.cons.injEq, and_true, append_cancel_left_eq] at h
  obtain ⟨hdevice, hinode, hfamily, hprefix, htable, hpriority, hprotocol, hscope, htype,
    hdestination, houtput, hgateway, hsource, hnexthops⟩ := h
  have hnetns : a.netns = b.netns := by
    cases ha : a.netns
    cases hb : b.netns
    rw [ha, hb] at hdevice hinode
    exact NetnsId.mk.injEq _ _ _ _ ▸ ⟨hdecimal hdevice, hdecimal hinode⟩
  have houtput := elim_injective hdecimal hdash houtput
  have hgateway := elim_injective hexAddress_injective (fun x => haddress x [] (by decide)) hgateway
  have hsource := elim_injective hexAddress_injective (fun x => haddress x ['-'] (by decide)) hsource
  simp [content, hnetns, hdecimal hfamily, hdecimal hprefix, hdecimal htable,
    hdecimal hpriority, hdecimal hprotocol, hdecimal hscope, hdecimal htype,
    hexAddress_injective hdestination, houtput, hgateway, hsource,
    nexthopsText_injective hnexthops]

theorem identity_eq_iff (a b : RouteFact) : a.identity = b.identity ↔ a.content = b.content := by
  constructor <;> intro h
  · rw [identity_eq_intercalate, identity_eq_intercalate] at h
    apply content_of_fields
    exact intercalate_inj (cons_ne_nil _ _) (cons_ne_nil _ _) (fields_free a) (fields_free b) h
  · have hfields : ∀ r : RouteFact, r.identity = r.content.identity := by
      intro r
      have hsort : sort (sort r.multipath) = sort r.multipath := sort_sort _
      simp [identity, content, hsort]
    rw [hfields a, hfields b, h]

/-- The text of a route determines its modelled fields, absent ones included, and the multiset
of its nexthops. -/
theorem identity_faithful (a b : RouteFact) :
    a.identity = b.identity ↔ a.netns = b.netns ∧ a.family = b.family ∧
      a.destinationPrefix = b.destinationPrefix ∧ a.destination = b.destination ∧
      a.table = b.table ∧ a.priority = b.priority ∧ a.protocol = b.protocol ∧
      a.scope = b.scope ∧ a.type = b.type ∧ a.outputIfindex = b.outputIfindex ∧
      a.gateway = b.gateway ∧ a.preferredSource = b.preferredSource ∧
      a.multipath.Perm b.multipath := by
  rw [identity_eq_iff, ← sort_eq_iff]
  simp [content]
end RouteFact
end WeakNet
