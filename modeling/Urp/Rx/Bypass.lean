import Urp.Rx.Deliver

/-!
# The in-order bypass
-/

namespace Urp.Rx

open Urp.Lib Urp.Reorder Urp.Frame Urp.Stream List

def deliverAllBuffered (results : Nat → SendResult) {g : Geometry} (s : Stream)
    (arrivals : List (Arrival g)) : Stream :=
  arrivals.foldl (fun s a => deliverBuffered a.kmalloc results g s a.mem a.seq a.payloadLen) s

theorem deliver_eq_deliverBuffered {g : Geometry} (results : Nat → SendResult) {s : Stream}
    (a : Arrival g) (steady : Steady s.reorder) (fits : Fits g.bufSize s.reorder)
    (allocated : ∀ i, a.kmalloc i = true) :
    deliver results s a = deliverBuffered a.kmalloc results g s a.mem a.seq a.payloadLen := by
  rw [deliver_eq results a steady.toCounted fits,
    deliverBuffered_eq _ _ _ _ steady.toCounted fits a.fits,
    arrive_eq_arriveBuffered steady allocated]
  rfl

theorem deliverAll_eq_deliverAllBuffered {g : Geometry} (results : Nat → SendResult) {s : Stream}
    {arrivals : List (Arrival g)} (steady : Steady s.reorder) (fits : Fits g.bufSize s.reorder)
    (allocated : ∀ a ∈ arrivals, ∀ i, a.kmalloc i = true) :
    deliverAll results s arrivals = deliverAllBuffered results s arrivals := by
  induction arrivals generalizing s with
  | nil => rfl
  | cons a rest ih =>
    have head := allocated a mem_cons_self
    have same := deliver_eq_deliverBuffered results a steady fits head
    have after := deliver_eq results a steady.toCounted fits
    simp only [deliverAll, deliverAllBuffered, foldl_cons] at ih ⊢
    rw [← same]
    refine ih ?_ ?_ (fun b hb => allocated b (mem_cons_of_mem a hb))
    · rw [after, arrive_eq_arriveBuffered steady head]
      exact steady.arriveBuffered head a.word
    · rw [after]
      exact fits.arrive a.kmalloc a.seq a.length_payload

/-- Whatever arrives, in whatever order, and whatever the writes return: with and without the
bypass, the socket and the reorder buffer are the same after every arrival. -/
theorem bypass_same_as_buffered {g : Geometry} (results : Nat → SendResult) {s : Stream}
    {initial maxBuffered : Nat} (arrivals : List (Arrival g)) (word : maxBuffered ≤ u32Max)
    (created : alloc initial maxBuffered = some s.reorder)
    (allocated : ∀ a ∈ arrivals, ∀ i, a.kmalloc i = true) (k : Nat) :
    (deliverAll results s (arrivals.take k)).udsSock =
        (deliverAllBuffered results s (arrivals.take k)).udsSock ∧
      (deliverAll results s (arrivals.take k)).reorder.nextExpected =
        (deliverAllBuffered results s (arrivals.take k)).reorder.nextExpected ∧
      (deliverAll results s (arrivals.take k)).reorder.pending =
        (deliverAllBuffered results s (arrivals.take k)).reorder.pending := by
  have steady := Steady.alloc word created
  have fits : Fits g.bufSize s.reorder := Fits.alloc created
  rw [deliverAll_eq_deliverAllBuffered results steady fits
    (fun a ha => allocated a (mem_of_mem_take ha))]
  exact ⟨rfl, rfl, rfl⟩

def overtaken : List (Arrival (Geometry.resolve 4096 1)) :=
  [oneByte _ 1 (by decide) 11, oneByte _ 0 (by decide) 10, oneByte _ 1 (by decide) 12]

theorem bypass_same_as_buffered_overtaken :
    (deliverAll (fun _ => .full) (openStream 256) overtaken).udsSock =
        some ⟨[10, 11], 2, false, false⟩ ∧
      (deliverAllBuffered (fun _ => .full) (openStream 256) overtaken).udsSock =
        some ⟨[10, 11], 2, false, false⟩ := by
  have bypassed : (deliverAll (fun _ => .full) (openStream 256) overtaken).udsSock =
      some ⟨[10, 11], 2, false, false⟩ := by decide
  have allocated : ∀ a ∈ overtaken, ∀ i, a.kmalloc i = true := by
    simp [overtaken, oneByte]
  have same := (bypass_same_as_buffered (fun _ => .full) (s := openStream 256) overtaken
    (by decide : 256 ≤ u32Max) rfl allocated 3).1
  exact ⟨bypassed, same.symm.trans bypassed⟩

end Urp.Rx
