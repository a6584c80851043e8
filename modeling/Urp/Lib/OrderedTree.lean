import Mathlib.Algebra.Order.Ring.Nat
import Mathlib.Data.List.Sort

/-!
# Ordered trees with unique keys

A balanced search tree is kept as the list of its nodes in key order.
-/

namespace Urp.Lib

open List

universe u v

structure OrderedTree (α : Type u) {κ : Type v} [LinearOrder κ] (key : α → κ) where
  nodes : List α
  sorted : nodes.Pairwise (fun a b => key a < key b)

namespace OrderedTree

variable {α : Type u} {κ : Type v} [LinearOrder κ] {key : α → κ}

instance [DecidableEq α] : DecidableEq (OrderedTree α key) := fun s t =>
  decidable_of_iff (s.nodes = t.nodes) (by cases s; cases t; simp)

@[ext] theorem ext {s t : OrderedTree α key} (h : s.nodes = t.nodes) : s = t := by
  cases s
  cases t
  simpa using h

instance : Membership α (OrderedTree α key) := ⟨fun t a => a ∈ t.nodes⟩

variable {a : α}

variable {t : OrderedTree α key}

theorem mem_def : a ∈ t ↔ a ∈ t.nodes := Iff.rfl

def empty : OrderedTree α key := ⟨[], List.Pairwise.nil⟩

@[simp] theorem empty_nodes : (empty : OrderedTree α key).nodes = [] := rfl

@[simp] theorem not_mem_empty (a : α) : a ∉ (empty : OrderedTree α key) := not_mem_nil

def size (t : OrderedTree α key) : Nat := t.nodes.length

def first (t : OrderedTree α key) : Option α := t.nodes.head?

def find? (t : OrderedTree α key) (k : κ) : Option α := t.nodes.find? (fun a => key a = k)

def eraseFirst (t : OrderedTree α key) : OrderedTree α key := ⟨t.nodes.tail, t.sorted.tail⟩

def insert (t : OrderedTree α key) (a : α) : OrderedTree α key where
  nodes := t.nodes.filter (fun b => key b < key a) ++ a :: t.nodes.filter (fun b => key a < key b)
  sorted := by
    refine pairwise_append.mpr ⟨t.sorted.filter _, ?_, ?_⟩
    · refine pairwise_cons.mpr ⟨fun b hb => ?_, t.sorted.filter _⟩
      simpa using (mem_filter.mp hb).2
    · intro b hb c hc
      have below : key b < key a := by simpa using (mem_filter.mp hb).2
      rcases mem_cons.mp hc with rfl | hc
      · exact below
      · have above : key a < key c := by simpa using (mem_filter.mp hc).2
        exact below.trans above

variable {b : α}

theorem mem_insert : b ∈ t.insert a ↔ b = a ∨ b ∈ t ∧ key b ≠ key a := by
  simp only [mem_def, insert, mem_append, mem_filter, mem_cons, decide_eq_true_eq, ne_iff_lt_or_gt]
  tauto

theorem find?_eq_none {k : κ} : t.find? k = none ↔ ∀ a ∈ t, key a ≠ k := by
  simp [find?, mem_def]

theorem size_insert (fresh : t.find? (key a) = none) : (t.insert a).size = t.size + 1 := by
  have split := length_eq_length_filter_add (l := t.nodes) (fun b => decide (key b < key a))
  have rest : t.nodes.filter (fun b => !decide (key b < key a)) =
      t.nodes.filter (fun b => key a < key b) := by
    refine filter_congr fun b hb => ?_
    have distinct := find?_eq_none.mp fresh b hb
    simp only [← decide_not, not_lt, decide_eq_decide]
    exact ⟨fun le => le.lt_of_ne distinct.symm, le_of_lt⟩
  rw [rest] at split
  simp only [size, insert, length_append, length_cons]
  omega

theorem first_eq_none : t.first = none ↔ t = empty := by
  simp [first, OrderedTree.ext_iff]

section

variable (h : t.first = some a)
include h

theorem first_mem : a ∈ t :=
  mem_of_mem_head? h

theorem nodes_eq_cons : t.nodes = a :: t.eraseFirst.nodes := by
  simp only [first, List.head?_eq_some_iff] at h
  obtain ⟨rest, h⟩ := h
  simp [eraseFirst, h]

theorem size_eraseFirst : t.size = t.eraseFirst.size + 1 := by
  simp [size, nodes_eq_cons h]

theorem mem_iff_first : b ∈ t ↔ b = a ∨ b ∈ t.eraseFirst := by
  simp [mem_def, nodes_eq_cons h]

theorem first_lt (hb : b ∈ t.eraseFirst) : key a < key b := by
  have sorted := t.sorted
  rw [nodes_eq_cons h] at sorted
  exact (pairwise_cons.mp sorted).1 b hb

theorem first_le (hb : b ∈ t) : key a ≤ key b := by
  rcases (mem_iff_first h).mp hb with rfl | hb
  · exact le_rfl
  · exact (first_lt h hb).le

end

section

variable (least : ∀ b ∈ t, key a < key b)
include least

theorem nodes_insert_least :
    (t.insert a).nodes = a :: t.nodes := by
  have below : t.nodes.filter (fun b => key b < key a) = [] :=
    filter_eq_nil_iff.mpr fun b hb => by simpa using (least b hb).le
  have above : t.nodes.filter (fun b => key a < key b) = t.nodes :=
    filter_eq_self.mpr fun b hb => by simpa using least b hb
  simp [insert, below, above]

theorem first_insert_least : (t.insert a).first = some a := by
  simp [first, nodes_insert_least least]

theorem eraseFirst_insert_least : (t.insert a).eraseFirst = t := by
  ext1
  simp [eraseFirst, nodes_insert_least least]

end

theorem keys_nodup (t : OrderedTree α key) : (t.nodes.map key).Nodup :=
  pairwise_map.mpr (t.sorted.imp ne_of_lt)

theorem eq_of_key_eq (ha : a ∈ t) (hb : b ∈ t) (same : key a = key b) : a = b :=
  inj_on_of_nodup_map t.keys_nodup ha hb same

def erase (t : OrderedTree α key) (k : κ) : OrderedTree α key :=
  ⟨t.nodes.filter (fun a => key a ≠ k), t.sorted.filter _⟩

theorem first_of_find? {k : κ} (least : ∀ b ∈ t, k ≤ key b)
    (found : t.find? k = some a) : t.first = some a := by
  have keyed : key a = k := by simpa using List.find?_some found
  have member : a ∈ t := mem_of_find?_eq_some found
  cases head : t.first with
  | none => simp [first_eq_none.mp head] at member
  | some b =>
    have below := first_le head member
    have above := least b (first_mem head)
    rw [eq_of_key_eq (first_mem head) member (le_antisymm below (keyed ▸ above))]

theorem find?_insert_least (least : ∀ b ∈ t, key a < key b) :
    (t.insert a).find? (key a) = some a := by
  simp [find?, nodes_insert_least least]

theorem erase_first (head : t.first = some a) : t.erase (key a) = t.eraseFirst := by
  have others : t.eraseFirst.nodes.filter (fun b => key b ≠ key a) = t.eraseFirst.nodes :=
    filter_eq_self.mpr fun b hb => by simpa using (first_lt head hb).ne'
  ext1
  change t.nodes.filter _ = _
  rw [nodes_eq_cons head, filter_cons_of_neg (by simp), others]

theorem erase_insert_least (least : ∀ b ∈ t, key a < key b) : (t.insert a).erase (key a) = t :=
  (erase_first (first_insert_least least)).trans (eraseFirst_insert_least least)

end OrderedTree

end Urp.Lib
