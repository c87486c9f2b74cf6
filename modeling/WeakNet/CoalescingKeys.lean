import WeakNet.EventBusGuarantees
import WeakNet.Foundation.Digits

/-! The key of a replaceable event is its stream written as text, and the text determines the
stream: no field holds the separator, and the fields of a socket are four or one. -/

namespace WeakNet
open List Nat Foundation.Digits Function

theorem EventKind.index_injective : Injective index := by
  apply LeftInverse.injective (g := fun i : Fin 18 => ofNat i)
  intro kind
  cases kind <;> rfl

theorem EventSource.index_injective : Injective index := by
  apply LeftInverse.injective (g := fun i : Fin 13 => ofNat i)
  intro source
  cases source <;> rfl

structure Stream where
  kind : EventKind
  source : EventSource
  netns : NetnsId
  ifindex : Option ℕ
  socket : Option SocketId

namespace Stream
def socketFields (id : SocketId) : List (List Char) :=
  ['s' :: toDigits 10 id.netns.device, toDigits 10 id.netns.inode,
    id.cookie.elim ['-'] (toDigits 10), toDigits 10 id.generation]

def fields (s : Stream) : List (List Char) :=
  [toDigits 10 s.kind.index, toDigits 10 s.source.index, toDigits 10 s.netns.device,
    toDigits 10 s.netns.inode, 'i' :: s.ifindex.elim ['-'] (toDigits 10)] ++
    s.socket.elim [['s', '-']] socketFields

theorem fields_free (s : Stream) : ∀ field ∈ s.fields, ':' ∉ field := by
  have hnumber : ∀ n, ':' ∉ toDigits 10 n := not_mem_toDigits (by omega) (by omega) (by decide)
  have helim := not_mem_elim (by decide : ':' ∉ ['-']) hnumber
  cases hsocket : s.socket <;> simp [fields, socketFields, hsocket, hnumber, helim]

theorem fields_injective : Injective fields := by
  have hdigits := toDigits_injective (by omega : 1 < 10) (by omega)
  have helim := elim_injective hdigits fun n (hn : _ = ['-']) =>
    not_mem_toDigits (by omega) (by omega) (by decide : '-' ∈ _) n (hn ▸ mem_cons_self)
  have hid : Injective socketFields := by
    rintro ⟨⟨_, _⟩, _, _⟩ ⟨⟨_, _⟩, _, _⟩ h
    simp only [socketFields, cons.injEq, true_and, and_true] at h
    obtain ⟨hdevice, hinode, hcookie, hgeneration⟩ := h
    rw [hdigits hdevice, hdigits hinode, helim hcookie, hdigits hgeneration]
  have hsocket := elim_injective hid (by simp [socketFields] : ∀ _, _ ≠ [['s', '-']])
  rintro ⟨_, _, ⟨_, _⟩, _, _⟩ ⟨_, _, ⟨_, _⟩, _, _⟩ h
  simp only [fields, cons_append, nil_append, cons.injEq, true_and] at h
  obtain ⟨hkind, hsource, hdevice, hinode, hifindex, h⟩ := h
  rw [EventKind.index_injective (Fin.ext (hdigits hkind)),
    EventSource.index_injective (Fin.ext (hdigits hsource)), hdigits hdevice, hdigits hinode,
    helim hifindex, hsocket h]
end Stream

namespace NetworkEvent
def stream (event : NetworkEvent) : Stream :=
  ⟨event.header.kind, event.header.source, event.header.netns,
    event.header.interface.map InterfaceId.ifindex, event.header.socket⟩

theorem coalescingKey_eq {event : NetworkEvent} (h : event.replaceable) :
    event.coalescingKey = [':'].intercalate event.stream.fields := by
  rw [coalescingKey, if_pos h, stream]
  cases event.header.interface <;> cases event.header.socket <;>
    simp [interfaceText, socketText, Stream.fields, Stream.socketFields, List.intercalate]

theorem coalescingKey_eq_iff {a b : NetworkEvent} (ha : a.replaceable)
    (hb : b.replaceable) :
    a.coalescingKey = b.coalescingKey ↔ a.stream = b.stream := by
  rw [coalescingKey_eq ha, coalescingKey_eq hb]
  constructor <;> intro h
  · apply Stream.fields_injective
    exact intercalate_inj (cons_ne_nil _ _) (cons_ne_nil _ _) a.stream.fields_free
      b.stream.fields_free h
  · rw [h]
end NetworkEvent

/-- Equal keys mean equal streams, so that over every interleaving a queued event is only replaced
by a later one of its stream. -/
theorem coalescing_faithful :
    (∀ a b : NetworkEvent, a.replaceable = true → b.replaceable = true →
      (a.coalescingKey = b.coalescingKey ↔ a.stream = b.stream)) ∧
    ∀ capacity hcapacity ops, ∀ r ∈ (EventBus.history capacity hcapacity ops).replaced,
      r.old.stream = r.new.stream ∧ r.old.sequence < r.new.sequence := by
  constructor
  · intro a b ha hb
    exact NetworkEvent.coalescingKey_eq_iff ha hb
  · intro capacity hcapacity ops r hr
    have h := (EventBus.history_sound capacity hcapacity ops).ordered.replaced r hr
    exact ⟨(NetworkEvent.coalescingKey_eq_iff h.old h.new).mp h.key, h.later⟩
end WeakNet
