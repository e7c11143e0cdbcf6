/-
# Linked lists whose entries are freed

The entries of a list are known by their addresses, and an entry leaves the list only by being
freed; so an address that is not in the list is that of a freed entry. A walk takes the next
entry before its body runs (`forEachSafe`), which allows the body to delete the entry it is
given (`forEachSafe_eq`), and no other that the walk still needs.
-/

import Mathlib.Data.List.Nodup
import Mathlib.Data.List.TakeWhile

namespace FalconGpon.Lib

structure Node (α : Type) where
  addr : Nat
  val : α
deriving DecidableEq

/-- A list in the order of its links. -/
structure NodeList (α : Type) where
  nodes : List (Node α)
  distinct : (nodes.map Node.addr).Nodup

/-- Why a walk does not end as it should. -/
inductive ListFault
  /-- The entry is read after it was freed. -/
  | freed (addr : Nat)
  | unfinished
deriving DecidableEq

namespace NodeList

variable {α : Type}

def vals (l : NodeList α) : List α := l.nodes.map Node.val

def read (l : NodeList α) (p : Nat) : Except ListFault (Node α) :=
  match l.nodes.find? (·.addr = p) with
  | some n => .ok n
  | none => .error (.freed p)

/-- The entry behind the head of the list, which is `none`. -/
def first (l : NodeList α) : Option Nat := l.nodes.head?.map Node.addr

def next (l : NodeList α) (p : Nat) : Except ListFault (Option Nat) :=
  match l.nodes.dropWhile (·.addr ≠ p) with
  | [] => .error (.freed p)
  | _ :: rest => .ok (rest.head?.map Node.addr)

def filter (keep : Node α → Bool) (l : NodeList α) : NodeList α :=
  ⟨l.nodes.filter keep, l.distinct.sublist (List.filter_sublist.map _)⟩

@[simp]
theorem nodes_filter (keep : Node α → Bool) (l : NodeList α) :
    (l.filter keep).nodes = l.nodes.filter keep := rfl

def delete (l : NodeList α) (p : Nat) : NodeList α := l.filter (·.addr ≠ p)

/-- The loop from an entry on; `fuel` bounds the rounds. -/
def walk (body : Nat → NodeList α → Except ListFault (NodeList α)) :
    Nat → Option Nat → NodeList α → Except ListFault (NodeList α)
  | _, none, l => .ok l
  | 0, some _, _ => .error .unfinished
  | fuel + 1, some p, l => do
      let following ← l.next p
      let l ← body p l
      walk body fuel following l

def forEachSafe (body : Nat → NodeList α → Except ListFault (NodeList α)) (l : NodeList α) :
    Except ListFault (NodeList α) :=
  walk body l.nodes.length l.first l

/-! ## Reading -/

variable {l : NodeList α} {before rest : List (Node α)} {n : Node α} {p : Nat}

@[ext]
theorem ext {l l' : NodeList α} (hnodes : l.nodes = l'.nodes) : l = l' := by
  cases l
  cases l'
  cases hnodes
  rfl

theorem addr_ne (hnodes : l.nodes = before ++ n :: rest) :
    (∀ m ∈ before, m.addr ≠ n.addr) ∧ ∀ m ∈ rest, m.addr ≠ n.addr := by
  have hdistinct := l.distinct
  rw [hnodes, List.map_append, List.map_cons] at hdistinct
  have ⟨_, hsecond, hapart⟩ := List.nodup_append.mp hdistinct
  have hrest := (List.nodup_cons.mp hsecond).1
  constructor
  · intro m hm
    exact hapart _ (List.mem_map_of_mem hm) _ List.mem_cons_self
  · intro m hm hsame
    exact hrest (hsame ▸ List.mem_map_of_mem hm)

theorem read_of_mem (hn : n ∈ l.nodes) : l.read n.addr = .ok n := by
  have ⟨before, rest, hnodes⟩ := List.append_of_mem hn
  have hbefore : before.find? (·.addr = n.addr) = none := by
    apply List.find?_eq_none.mpr
    intro m hm
    simpa using (addr_ne hnodes).1 m hm
  rw [read, hnodes, List.find?_append, hbefore, Option.none_or,
    List.find?_cons_of_pos (by simp)]

theorem next_eq (hnodes : l.nodes = before ++ n :: rest) :
    l.next n.addr = .ok (rest.head?.map Node.addr) := by
  have hbefore : ∀ m ∈ before, decide (m.addr ≠ n.addr) = true := by
    intro m hm
    exact decide_eq_true ((addr_ne hnodes).1 m hm)
  rw [next, hnodes, List.dropWhile_append_of_pos hbefore,
    List.dropWhile_cons_of_neg (by simp)]

theorem read_freed (hp : ∀ m ∈ l.nodes, m.addr ≠ p) : l.read p = .error (.freed p) := by
  have hnone : l.nodes.find? (·.addr = p) = none := by
    apply List.find?_eq_none.mpr
    intro m hm
    simpa using hp m hm
  rw [read, hnone]

theorem next_freed (hp : ∀ m ∈ l.nodes, m.addr ≠ p) : l.next p = .error (.freed p) := by
  have hnone : l.nodes.dropWhile (·.addr ≠ p) = [] := by
    apply List.dropWhile_eq_nil_iff.mpr
    intro m hm
    exact decide_eq_true (hp m hm)
  rw [next, hnone]

theorem delete_nodes (hnodes : l.nodes = before ++ n :: rest) :
    (l.delete n.addr).nodes = before ++ rest := by
  have hkeep : ∀ m : Node α, m.addr ≠ n.addr → decide (m.addr ≠ n.addr) = true :=
    fun m hm => decide_eq_true hm
  have ⟨hbefore, hrest⟩ := addr_ne hnodes
  rw [delete, nodes_filter, hnodes, List.filter_append, List.filter_cons_of_neg (by simp),
    List.filter_eq_self.mpr fun m hm => hkeep m (hbefore m hm),
    List.filter_eq_self.mpr fun m hm => hkeep m (hrest m hm)]

theorem delete_freed (l : NodeList α) (p : Nat) : ∀ m ∈ (l.delete p).nodes, m.addr ≠ p := by
  intro m hm
  exact of_decide_eq_true (List.mem_filter.mp hm).2

theorem filter_freed {keep : Node α → Bool} (hn : n ∈ l.nodes) (hdrop : keep n = false) :
    ∀ m ∈ (l.filter keep).nodes, m.addr ≠ n.addr := by
  intro m hm hsame
  have ⟨hmem, hkeep⟩ := List.mem_filter.mp hm
  have heq : m = n := List.inj_on_of_nodup_map l.distinct hmem hn hsame
  rw [heq, hdrop] at hkeep
  cases hkeep

/-! ## The walk -/

variable {body : Nat → NodeList α → Except ListFault (NodeList α)} {fuel : Nat}

@[simp]
theorem walk_none : walk body fuel none l = .ok l := by
  cases fuel <;> rfl

theorem walk_some (hnodes : l.nodes = before ++ n :: rest) :
    walk body (fuel + 1) (some n.addr) l =
      (body n.addr l).bind (walk body fuel (rest.head?.map Node.addr)) := by
  rw [walk, next_eq hnodes]
  rfl

theorem walk_freed (hp : ∀ m ∈ l.nodes, m.addr ≠ p) :
    walk body (fuel + 1) (some p) l = .error (.freed p) := by
  rw [walk, next_freed hp]
  rfl

/-- A body that deletes its entry or does nothing leaves the entries that are to be kept. -/
theorem walk_eq {keep : Node α → Bool} {orig : NodeList α}
    (hbody : ∀ l : NodeList α, l.nodes ⊆ orig.nodes →
      (∀ m ∈ orig.nodes, keep m → m ∈ l.nodes) → ∀ n ∈ l.nodes,
      body n.addr l = .ok (if keep n then l else l.delete n.addr))
    (horig : orig.nodes = before ++ rest) (hnodes : l.nodes = before.filter keep ++ rest)
    (hfuel : rest.length ≤ fuel) :
    walk body fuel (rest.head?.map Node.addr) l = .ok (orig.filter keep) := by
  induction rest generalizing before l fuel with
  | nil =>
      have hall : l = orig.filter keep := by
        apply NodeList.ext
        rw [hnodes, nodes_filter, horig, List.append_nil, List.append_nil]
      rw [List.head?_nil, Option.map_none, walk_none, hall]
  | cons n rest ih =>
      cases fuel with
      | zero => cases hfuel
      | succ fuel =>
          have hkept : ∀ m ∈ orig.nodes, keep m → m ∈ l.nodes := by
            intro m hm hkeep
            rw [horig] at hm
            rw [hnodes]
            cases List.mem_append.mp hm with
            | inl hbefore => exact List.mem_append_left _ (List.mem_filter.mpr ⟨hbefore, hkeep⟩)
            | inr hrest => exact List.mem_append_right _ hrest
          have hsub : l.nodes ⊆ orig.nodes := by
            rw [hnodes, horig]
            exact List.append_subset.mpr
              ⟨fun m hm => List.mem_append_left _ (List.mem_filter.mp hm).1,
                List.subset_append_right _ _⟩
          have hmem : n ∈ l.nodes := hnodes ▸ List.mem_append_right _ List.mem_cons_self
          have hstep : orig.nodes = (before ++ [n]) ++ rest := by
            rw [horig, List.append_assoc, List.singleton_append]
          rw [List.head?_cons, Option.map_some, walk_some hnodes, hbody l hsub hkept n hmem]
          apply ih hstep _ (Nat.le_of_succ_le_succ hfuel)
          by_cases hkeep : keep n = true
          · rw [if_pos hkeep, hnodes, List.filter_append, List.filter_cons_of_pos hkeep,
              List.filter_nil, List.append_assoc, List.singleton_append]
          · rw [if_neg hkeep, delete_nodes hnodes, List.filter_append,
              List.filter_cons_of_neg hkeep, List.filter_nil, List.append_nil]

theorem forEachSafe_eq {keep : Node α → Bool} (hbody : ∀ l' : NodeList α, l'.nodes ⊆ l.nodes →
      (∀ m ∈ l.nodes, keep m → m ∈ l'.nodes) → ∀ n ∈ l'.nodes,
      body n.addr l' = .ok (if keep n then l' else l'.delete n.addr)) :
    forEachSafe body l = .ok (l.filter keep) :=
  walk_eq hbody (show l.nodes = [] ++ l.nodes from rfl) rfl (Nat.le_refl _)

/-- A body that reads a freed entry ends the walk. -/
theorem walk_error {good : Node α → Prop} (hgood : ∀ (l : NodeList α), ∀ n ∈ l.nodes, good n →
      body n.addr l = .ok l ∨ body n.addr l = .ok (l.delete n.addr))
    (hbad : ∀ (l : NodeList α), ∀ n ∈ l.nodes, ¬ good n →
      body n.addr l = .error (.freed n.addr))
    (hnodes : l.nodes = before ++ rest) (hfuel : rest.length ≤ fuel)
    (hsome : ∃ n ∈ rest, ¬ good n) :
    ∃ p, walk body fuel (rest.head?.map Node.addr) l = .error (.freed p) := by
  induction rest generalizing before l fuel with
  | nil =>
      have ⟨n, hn, _⟩ := hsome
      cases hn
  | cons n rest ih =>
      cases fuel with
      | zero => cases hfuel
      | succ fuel =>
          have hmem : n ∈ l.nodes := hnodes ▸ List.mem_append_right _ List.mem_cons_self
          rw [List.head?_cons, Option.map_some, walk_some hnodes]
          by_cases hn : good n
          · have hlater : ∃ m ∈ rest, ¬ good m := by
              have ⟨m, hm, hnot⟩ := hsome
              cases List.mem_cons.mp hm with
              | inl hsame => exact absurd (hsame ▸ hn) hnot
              | inr hin => exact ⟨m, hin, hnot⟩
            cases hgood l n hmem hn with
            | inl hkept =>
                rw [hkept]
                have hmore : l.nodes = (before ++ [n]) ++ rest := by
                  rw [hnodes, List.append_assoc, List.singleton_append]
                exact ih hmore (Nat.le_of_succ_le_succ hfuel) hlater
            | inr hgone =>
                rw [hgone]
                exact ih (delete_nodes hnodes) (Nat.le_of_succ_le_succ hfuel) hlater
          · rw [hbad l n hmem hn]
            exact ⟨n.addr, rfl⟩

theorem forEachSafe_error {good : Node α → Prop}
    (hgood : ∀ (l : NodeList α), ∀ n ∈ l.nodes, good n →
      body n.addr l = .ok l ∨ body n.addr l = .ok (l.delete n.addr))
    (hbad : ∀ (l : NodeList α), ∀ n ∈ l.nodes, ¬ good n →
      body n.addr l = .error (.freed n.addr)) (hsome : ∃ n ∈ l.nodes, ¬ good n) :
    ∃ p, forEachSafe body l = .error (.freed p) :=
  @walk_error _ l [] _ body _ good hgood hbad rfl (Nat.le_refl _) hsome

end NodeList

end FalconGpon.Lib
