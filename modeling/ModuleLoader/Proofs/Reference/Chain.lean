/-
Chains of references.

A module that is reached through others lies where the references lead one by one.  Two references
in a row may also be taken together first, the second resolved against the first as if that were
the path of a module.  What comes of it is a reference in turn, though it need not begin with
dots any longer.

Either way the segments of the first reference but the last, and then those of the second, are
followed from the directory of the base (`normalizeChars_regroup`), and climbs that the two of
them leave are made good against the base.  So it does not matter how a chain is grouped
(`Chain.reaches_target`), as long as every reference before another one ends in a name: without
a name at its end there is nothing for the next one to replace.
-/
import ModuleLoader.Proofs.Path.Normalized
import ModuleLoader.Proofs.Reference

namespace ModuleLoader

open Text

namespace Path

/-! ### One reference after another -/

/-- **Two references in a row may be taken together first.** -/
theorem normalizeChars_regroup (base : List Char) {first second : List Char}
    (hfirst : isRooted first = false) (hsecond : isRooted second = false)
    (hnamed : namesDirectory first = false) :
    normalizeChars (directory (normalizeChars (directory base ++ first)) ++ second)
      = normalizeChars (directory base ++ normalizeChars (directory first ++ second)) := by
  have htogether : isRooted (normalizeChars (directory first ++ second)) = false := by
    rw [isRooted_normalizeChars, isRooted_directory_append first hsecond, hfirst]
  have hthrough : isRooted (normalizeChars (directory base ++ first)) = isRooted base := by
    rw [isRooted_normalizeChars, isRooted_directory_append base hfirst]
  refine normalizeChars_congr ?_ ?_ ?_
  · rw [isRooted_directory_append _ hsecond, hthrough, isRooted_directory_append base htogether]
  · -- Both sides enter the first reference without its name, and then the second.
    have hthroughNamed : ¬ namesDirectory (directory base ++ first) = true := by
      rw [namesDirectory_directory_append, hnamed]
      exact Bool.false_ne_true
    have hleft : (follow (directory base ++ first)).tail
        = (split '/' first).dropLast.foldl (enter (isRooted base)) (follow (directory base)) := by
      obtain ⟨front, last, hsplit, hlast, -⟩ := follow_of_named hnamed
      rw [follow_directory_append base hfirst, hsplit, List.foldl_append, List.dropLast_concat,
        List.foldl_cons, List.foldl_nil, hlast.enter]
      rfl
    have hright : (split '/' (normalizeChars (directory first ++ second))).foldl
          (enter (isRooted base)) (follow (directory base))
        = (split '/' (directory first ++ second)).foldl (enter (isRooted base))
            (follow (directory base)) := by
      refine (walks_enter _).foldl_normalizeChars fun hroot => ?_
      rw [isRooted_directory_append first hsecond, hfirst] at hroot
      cases hroot
    calc follow (directory (normalizeChars (directory base ++ first)) ++ second)
        = (split '/' second).foldl (enter (isRooted base))
            (follow (directory base ++ first)).tail := by
          rw [follow_directory_append _ hsecond, hthrough, follow_directory_normalizeChars,
            if_neg hthroughNamed]
      _ = (split '/' (directory first ++ second)).foldl (enter (isRooted base))
            (follow (directory base)) := by
          rw [hleft, split_directory_append, List.foldl_append]
      _ = follow (directory base ++ normalizeChars (directory first ++ second)) := by
          rw [← hright, follow_directory_append base htogether]
  · rw [namesDirectory_directory_append, namesDirectory_directory_append,
      namesDirectory_normalizeChars, namesDirectory_directory_append]

end Path

namespace Reference

/-! ### References that are taken together -/

/-- A text that goes on from a logical path: it holds no colon and does not start at the root. -/
structure Onward (text : String) : Prop where
  colon : ':' ∉ text.toList
  unrooted : Path.isRooted text.toList = false

instance (text : String) : Decidable (Onward text) :=
  decidable_of_iff (':' ∉ text.toList ∧ Path.isRooted text.toList = false)
    ⟨fun h => ⟨h.1, h.2⟩, fun h => ⟨h.colon, h.unrooted⟩⟩

theorem onward_of_isRelative {text : String} (hcolon : ':' ∉ text.toList)
    (h : isRelative text = true) : Onward text :=
  ⟨hcolon, isRooted_of_isRelative h⟩

/-- What goes on from a logical path is put in place of its last segment. -/
theorem resolve_of_onward {base reference : String} (hbase : ':' ∉ base.toList)
    (h : Onward reference) :
    resolve base reference = .ok (String.ofList
      (Path.normalizeChars (Path.directory base.toList ++ reference.toList))) := by
  unfold resolve resolveLogical
  rw [isAbsolute_of_not_mem h.colon, isAbsolute_of_not_mem hbase, h.unrooted]
  rfl

/-- No colon comes up on the way. -/
theorem colon_not_mem_of_resolve {base reference target : String} (hbase : ':' ∉ base.toList)
    (h : Onward reference) (hresolve : resolve base reference = .ok target) :
    ':' ∉ target.toList := by
  obtain rfl := Except.ok.inj ((resolve_of_onward hbase h).symm.trans hresolve)
  rw [String.toList_ofList]
  intro hmem
  rcases List.mem_append.mp (Path.mem_normalizeChars hmem (by decide)) with hmem | hmem
  · exact hbase ((Path.directory_start _).subset hmem)
  · exact h.colon hmem

/-- Two references that go on, taken together, go on, too, and end as the second does. -/
theorem onward_of_resolve {first second reach : String} (hfirst : Onward first)
    (hsecond : Onward second) (h : resolve first second = .ok reach) :
    Onward reach ∧ Path.namesDirectory reach.toList = Path.namesDirectory second.toList := by
  have hcolon := colon_not_mem_of_resolve hfirst.colon hsecond h
  obtain rfl := Except.ok.inj ((resolve_of_onward hfirst.colon hsecond).symm.trans h)
  refine ⟨⟨hcolon, ?_⟩, ?_⟩
  · rw [String.toList_ofList, Path.isRooted_normalizeChars,
      Path.isRooted_directory_append _ hsecond.unrooted, hfirst.unrooted]
  · rw [String.toList_ofList, Path.namesDirectory_normalizeChars,
      Path.namesDirectory_directory_append]

/-- A module that is reached through another one is reached at once by the two references taken
together. -/
theorem resolve_through {base first second : String} (hbase : ':' ∉ base.toList)
    (hfirst : Onward first) (hsecond : Onward second)
    (hnamed : Path.namesDirectory first.toList = false) :
    ∃ through reach target, resolve base first = .ok through ∧ resolve first second = .ok reach ∧
      resolve through second = .ok target ∧ resolve base reach = .ok target := by
  have hthrough := resolve_of_onward hbase hfirst
  have hreach := resolve_of_onward hfirst.colon hsecond
  have htarget := resolve_of_onward (colon_not_mem_of_resolve hbase hfirst hthrough) hsecond
  refine ⟨_, _, _, hthrough, hreach, htarget, ?_⟩
  rw [resolve_of_onward hbase (onward_of_resolve hfirst hsecond hreach).1, String.toList_ofList,
    String.toList_ofList, Path.normalizeChars_regroup _ hfirst.unrooted hsecond.unrooted hnamed]

/-! ### Chains -/

/-- References that are followed one after the other, grouped in some way. -/
inductive Chain where
  | single (reference : String)
  | through (first second : Chain)
  deriving Repr, DecidableEq

namespace Chain

/-- The references of a chain in order. -/
def references : Chain → List String
  | single reference => [reference]
  | through first second => first.references ++ second.references

/-- A chain taken together, group by group. -/
def target : Chain → Except Malformed String
  | single reference => .ok reference
  | through first second => do
    let base ← first.target
    let reference ← second.target
    resolve base reference

theorem references_ne_nil (chain : Chain) : chain.references ≠ [] := by
  induction chain with
  | single reference => exact List.cons_ne_nil _ _
  | through first second ih _ => exact List.append_ne_nil_of_left_ne_nil ih _

/-- A chain whose references all go on, each before another one to a name. -/
structure Linked (chain : Chain) : Prop where
  onward : ∀ r ∈ chain.references, Onward r
  named : ∀ r ∈ chain.references.dropLast, Path.namesDirectory r.toList = false

instance (chain : Chain) : Decidable chain.Linked :=
  decidable_of_iff ((∀ r ∈ chain.references, Onward r) ∧
      ∀ r ∈ chain.references.dropLast, Path.namesDirectory r.toList = false)
    ⟨fun h => ⟨h.1, h.2⟩, fun h => ⟨h.onward, h.named⟩⟩

/-- What a chain comes to: a reference that leads from every logical path where the references
of the chain lead one by one. -/
structure Reaches (chain : Chain) (reach : String) : Prop where
  target : chain.target = .ok reach
  onward : Onward reach
  named : (∀ r ∈ chain.references, Path.namesDirectory r.toList = false) →
    Path.namesDirectory reach.toList = false
  stepwise : ∀ {base : String}, ':' ∉ base.toList →
    chain.references.foldlM resolve base = resolve base reach

/-- **However a chain is grouped, it leads where its references lead one by one.** -/
theorem reaches_target {chain : Chain} (h : chain.Linked) : ∃ reach, chain.Reaches reach := by
  induction chain with
  | single reference =>
      have honward := h.onward reference List.mem_cons_self
      exact ⟨reference, rfl, honward, fun hnamed => hnamed reference List.mem_cons_self,
        fun _ => List.foldlM_cons.trans (bind_pure _)⟩
  | through first second ihFirst ihSecond =>
      have hdrop : (first.through second).references.dropLast
          = first.references ++ second.references.dropLast :=
        List.dropLast_append_of_ne_nil second.references_ne_nil
      have hnamed := h.named
      rw [hdrop] at hnamed
      have hfirstNamed : ∀ r ∈ first.references, Path.namesDirectory r.toList = false :=
        fun r hr => hnamed r (List.mem_append_left _ hr)
      obtain ⟨a, ha⟩ := ihFirst
        ⟨fun r hr => h.onward r (List.mem_append_left _ hr),
          fun r hr => hfirstNamed r (List.dropLast_subset _ hr)⟩
      obtain ⟨b, hb⟩ := ihSecond
        ⟨fun r hr => h.onward r (List.mem_append_right _ hr),
          fun r hr => hnamed r (List.mem_append_right _ hr)⟩
      have hreach := resolve_of_onward ha.onward.colon hb.onward
      obtain ⟨honward, hends⟩ := onward_of_resolve ha.onward hb.onward hreach
      refine ⟨_, ?_, honward, ?_, ?_⟩
      · show (first.target >>= fun base => second.target >>= fun reference =>
          resolve base reference) = _
        rw [ha.target, hb.target]
        exact hreach
      · intro hall
        rw [hends]
        exact hb.named fun r hr => hall r (List.mem_append_right _ hr)
      · intro base hbase
        obtain ⟨through, reach, target, hthrough, htogether, htarget, hdirect⟩ :=
          resolve_through hbase ha.onward hb.onward (ha.named hfirstNamed)
        obtain rfl := Except.ok.inj (hreach.symm.trans htogether)
        have hcolon := colon_not_mem_of_resolve hbase ha.onward hthrough
        show (first.references ++ second.references).foldlM resolve base = _
        rw [List.foldlM_append, ha.stepwise hbase, hthrough, hdirect]
        show second.references.foldlM resolve through = _
        rw [hb.stepwise hcolon, htarget]

end Chain

/-- **The module that references lead to does not depend on how they are grouped**: not of two
relative references, and not of any chain. -/
theorem resolve_regrouped {base : String} (hbase : ':' ∉ base.toList) :
    (∀ first second : String, isRelative first = true → isRelative second = true →
      ':' ∉ first.toList → ':' ∉ second.toList → Path.namesDirectory first.toList = false →
      ∃ through reach target, resolve base first = .ok through ∧ resolve first second = .ok reach ∧
        resolve through second = .ok target ∧ resolve base reach = .ok target) ∧
    ∀ chain other : Chain, chain.Linked → other.references = chain.references →
      ∃ reach reach' target, chain.target = .ok reach ∧ other.target = .ok reach' ∧
        chain.references.foldlM resolve base = .ok target ∧
        resolve base reach = .ok target ∧ resolve base reach' = .ok target := by
  refine ⟨?_, ?_⟩
  · intro first second hfirst hsecond hcolon hcolon' hnamed
    exact resolve_through hbase (onward_of_isRelative hcolon hfirst)
      (onward_of_isRelative hcolon' hsecond) hnamed
  · intro chain other hlinked hsame
    have hlinked' : other.Linked :=
      ⟨by rw [hsame]; exact hlinked.onward, by rw [hsame]; exact hlinked.named⟩
    obtain ⟨reach, hreach⟩ := Chain.reaches_target hlinked
    obtain ⟨reach', hreach'⟩ := Chain.reaches_target hlinked'
    have htarget := resolve_of_onward hbase hreach.onward
    refine ⟨reach, reach', _, hreach.target, hreach'.target, ?_, htarget, ?_⟩
    · rw [hreach.stepwise hbase, htarget]
    · rw [← hreach'.stepwise hbase, hsame, hreach.stepwise hbase, htarget]

/-- References that climb above the start of the base and end in a directory. -/
theorem resolve_regrouped_climbing :
    ':' ∉ "lib/a.js".toList ∧ isRelative "../../b/c.js" = true ∧ isRelative "./../../.." = true ∧
      ':' ∉ "../../b/c.js".toList ∧ ':' ∉ "./../../..".toList ∧
      Path.namesDirectory "../../b/c.js".toList = false ∧
      (∃ through reach target, resolve "lib/a.js" "../../b/c.js" = .ok through ∧
        resolve "../../b/c.js" "./../../.." = .ok reach ∧
        resolve through "./../../.." = .ok target ∧ resolve "lib/a.js" reach = .ok target) ∧
      (Chain.through (.single "../b.js") (.through (.single "../../c.js") (.single "./d/"))).Linked ∧
      ∃ reach reach' target,
        (Chain.through (.single "../b.js")
          (.through (.single "../../c.js") (.single "./d/"))).target = .ok reach ∧
        (Chain.through (.through (.single "../b.js") (.single "../../c.js"))
          (.single "./d/")).target = .ok reach' ∧
        ["../b.js", "../../c.js", "./d/"].foldlM resolve "lib/a.js" = .ok target ∧
        resolve "lib/a.js" reach = .ok target ∧ resolve "lib/a.js" reach' = .ok target := by
  have hbase : ':' ∉ "lib/a.js".toList := by decide
  have hlinked :
      (Chain.through (.single "../b.js") (.through (.single "../../c.js") (.single "./d/"))).Linked := by
    decide
  refine ⟨hbase, by decide, by decide, by decide, by decide, by decide, ?_, hlinked, ?_⟩
  · exact (resolve_regrouped hbase).1 _ _ (by decide) (by decide) (by decide) (by decide) (by decide)
  · exact (resolve_regrouped hbase).2 _ _ hlinked rfl

example : resolve "lib/a.js" "../../b/c.js" = .ok "../b/c.js" ∧
    resolve "../../b/c.js" "./../../.." = .ok "../../../../" ∧
    resolve "lib/a.js" "../../../../" = .ok "../../../" := by
  refine ⟨?_, ?_, ?_⟩ <;> rfl

end Reference

end ModuleLoader
