/-
Depth-first walks.

A walk visits a node, then what its children lead to, one child after the other in their
order, and goes on with whatever stood behind the node.  A node that has been visited is passed
over.  So a walk is told by what is left to do and what has not been seen.

What it visits are the nodes that can be reached (`mem_preorder_iff`), each of them once
(`preorder_nodup`), and a walk that has several things to do does them one after the other
(`preorder_append`), which is how a program that calls itself for every child comes to the same
order.
-/
import Mathlib.Data.List.Basic
import Mathlib.Logic.Relation

namespace ModuleLoader.DepthFirst

variable {α : Type} [DecidableEq α]

/-- The nodes that are left once `u` has been seen. -/
def without (unseen : List α) (u : α) : List α := unseen.filter (· ≠ u)

theorem mem_without {unseen : List α} {u v : α} : v ∈ without unseen u ↔ v ∈ unseen ∧ v ≠ u := by
  simp [without]

theorem length_without_lt {unseen : List α} {u : α} (h : u ∈ unseen) :
    (without unseen u).length < unseen.length :=
  List.length_filter_lt_length_iff_exists.mpr ⟨u, h, by simp⟩

theorem filter_without (unseen seen : List α) (u : α) :
    (without unseen u).filter (· ∉ seen) = unseen.filter (· ∉ u :: seen) := by
  unfold without
  rw [List.filter_filter]
  refine List.filter_congr fun v _ => ?_
  simp [Bool.and_comm]

/-- The nodes that are visited from `todo` on, in order, when all but `unseen` have been. -/
def preorder (children : α → List α) (unseen : List α) : List α → List α
  | [] => []
  | u :: todo =>
    if u ∈ unseen then u :: preorder children (without unseen u) (children u ++ todo)
    else preorder children unseen todo
termination_by todo => (unseen.length, todo.length)
decreasing_by
  · exact Prod.Lex.left _ _ (length_without_lt ‹u ∈ unseen›)
  · exact Prod.Lex.right _ (Nat.lt_succ_self _)

variable {children : α → List α}

theorem preorder_nil (unseen : List α) : preorder children unseen [] = [] := by
  rw [preorder]

theorem preorder_seen {unseen todo : List α} {u : α} (h : u ∉ unseen) :
    preorder children unseen (u :: todo) = preorder children unseen todo := by
  rw [preorder, if_neg h]

theorem preorder_unseen {unseen todo : List α} {u : α} (h : u ∈ unseen) :
    preorder children unseen (u :: todo) =
      u :: preorder children (without unseen u) (children u ++ todo) := by
  rw [preorder, if_pos h]

/-- Only what has not been seen is visited. -/
theorem mem_of_mem_preorder {unseen todo : List α} {v : α}
    (h : v ∈ preorder children unseen todo) : v ∈ unseen := by
  fun_induction preorder children unseen todo with
  | case1 unseen => cases h
  | case2 unseen u todo hu ih =>
      rcases List.mem_cons.mp h with rfl | h
      · exact hu
      · exact (mem_without.mp (ih h)).1
  | case3 unseen u todo hu ih => exact ih h

/-- **No node is visited twice.** -/
theorem preorder_nodup (children : α → List α) (unseen todo : List α) :
    (preorder children unseen todo).Nodup := by
  fun_induction preorder children unseen todo with
  | case1 unseen => exact List.nodup_nil
  | case2 unseen u todo hu ih =>
      refine List.nodup_cons.mpr ⟨?_, ih⟩
      intro hmem
      exact (mem_without.mp (mem_of_mem_preorder hmem)).2 rfl
  | case3 unseen u todo hu ih => exact ih

/-- What there is to do is done one after the other. -/
theorem preorder_append (unseen xs ys : List α) :
    preorder children unseen (xs ++ ys) = preorder children unseen xs ++
      preorder children (unseen.filter (· ∉ preorder children unseen xs)) ys := by
  fun_induction preorder children unseen xs with
  | case1 unseen => simp
  | case2 unseen u todo hu ih =>
      rw [List.cons_append, preorder_unseen hu, ← List.append_assoc, ih, filter_without,
        List.cons_append]
  | case3 unseen u todo hu ih =>
      rw [List.cons_append, preorder_seen hu, ih]

-- A circle is left where it closes, and a node with two parents is visited from the first.
example : preorder (fun u => [[1, 2], [2, 0], [1], [0]].getD u []) [0, 1, 2, 3] [0] = [0, 1, 2] := by
  cbv

/-! ### What is visited is what can be reached -/

/-- Whatever is visited can be reached from where the walk begins. -/
theorem reachable_of_mem_preorder {unseen todo : List α} {v : α}
    (h : v ∈ preorder children unseen todo) :
    ∃ u ∈ todo, Relation.ReflTransGen (fun a b => b ∈ children a) u v := by
  fun_induction preorder children unseen todo with
  | case1 unseen => cases h
  | case2 unseen u todo hu ih =>
      rcases List.mem_cons.mp h with rfl | h
      · exact ⟨v, List.mem_cons_self, .refl⟩
      · obtain ⟨w, hw, hreach⟩ := ih h
        rcases List.mem_append.mp hw with hchild | htodo
        · exact ⟨u, List.mem_cons_self, .head hchild hreach⟩
        · exact ⟨w, List.mem_cons_of_mem _ htodo, hreach⟩
  | case3 unseen u todo hu ih =>
      obtain ⟨w, hw, hreach⟩ := ih h
      exact ⟨w, List.mem_cons_of_mem _ hw, hreach⟩

/-- What there is to do is visited, unless it has been seen. -/
theorem mem_preorder_of_todo {unseen todo : List α} {v : α} (hv : v ∈ todo) (hunseen : v ∈ unseen) :
    v ∈ preorder children unseen todo := by
  fun_induction preorder children unseen todo with
  | case1 unseen => cases hv
  | case2 unseen u todo hu ih =>
      by_cases hvu : v = u
      · rw [hvu]
        exact List.mem_cons_self
      · have hlater : v ∈ children u ++ todo := by
          rcases List.mem_cons.mp hv with heq | hv
          · exact absurd heq hvu
          · exact List.mem_append_right _ hv
        have hstill : v ∈ without unseen u := mem_without.mpr ⟨hunseen, hvu⟩
        exact List.mem_cons_of_mem _ (ih hlater hstill)
  | case3 unseen u todo hu ih =>
      rcases List.mem_cons.mp hv with rfl | hv
      · exact absurd hunseen hu
      · exact ih hv hunseen

/-- The children of what is visited are visited, unless they have been seen. -/
theorem mem_preorder_of_child {unseen todo : List α} {u v : α}
    (hu : u ∈ preorder children unseen todo) (hv : v ∈ children u) (hunseen : v ∈ unseen) :
    v ∈ preorder children unseen todo := by
  fun_induction preorder children unseen todo with
  | case1 unseen => cases hu
  | case2 unseen w todo hw ih =>
      by_cases hvw : v = w
      · rw [hvw]
        exact List.mem_cons_self
      · have hstill : v ∈ without unseen w := mem_without.mpr ⟨hunseen, hvw⟩
        rcases List.mem_cons.mp hu with rfl | hu
        · exact List.mem_cons_of_mem _
            (mem_preorder_of_todo (List.mem_append_left _ hv) hstill)
        · exact List.mem_cons_of_mem _ (ih hu hstill)
  | case3 unseen w todo hw ih => exact ih hu hunseen

/-- **The nodes that are visited are those that can be reached.** -/
theorem mem_preorder_iff {nodes : List α} (hclosed : ∀ u ∈ nodes, ∀ v ∈ children u, v ∈ nodes)
    {s v : α} (hs : s ∈ nodes) :
    v ∈ preorder children nodes [s] ↔ Relation.ReflTransGen (fun a b => b ∈ children a) s v := by
  constructor
  · intro h
    obtain ⟨u, hu, hreach⟩ := reachable_of_mem_preorder h
    rwa [List.mem_singleton.mp hu] at hreach
  · intro hreach
    induction hreach with
    | refl => exact mem_preorder_of_todo List.mem_cons_self hs
    | tail _ hchild ih =>
        exact mem_preorder_of_child ih hchild (hclosed _ (mem_of_mem_preorder ih) _ hchild)

end ModuleLoader.DepthFirst
